import Imx6Gateway.Pc.JsonUtils
import Imx6Gateway.Pc.Topics

namespace Imx6Gateway
namespace Pc

open Library

/-!
# Alarms in Pc_data

The alarm branch of `MqttMessageHandler::handle`, from the text of a message
to the event that is handed to `saveAlarmEvent`.  The conversion of a number
written as a text, `std::stod`, is a parameter.
-/

structure AlarmEvent where
  alarmId : String
  timestampMs : Int
  factoryId : String
  factoryName : String
  areaId : String
  areaName : String
  gatewayId : String
  gatewayName : String
  portId : String
  portName : String
  deviceId : Int
  deviceName : String
  deviceType : String
  pointKey : String
  pointName : String
  alarmType : String
  level : String
  state : String
  value : Rat
  threshold : Rat
  message : String
deriving DecidableEq, Repr

def orElse (text other : String) : String :=
  if text = "" then other else text

def getJsonStringCompat (object : Json) (snakeKey camelKey : String) : String :=
  orElse (getJsonString object snakeKey) (getJsonString object camelKey)

def extractGatewayIdCompat (root : Json) : String :=
  orElse (getJsonStringAny root ["gatewayId", "gateway_id"])
    (match memberObject root "site" with
    | some site => getJsonStringAny site ["gatewayId", "gateway_id"]
    | none => "")

def extractPortIdCompat (root : Json) : String :=
  orElse (getJsonStringAny root ["portId", "port_id"])
    (match memberObject root "site" with
    | some site => getJsonStringAny site ["portId", "port_id"]
    | none => "")

def buildStableAlarmId (event : AlarmEvent) : String :=
  orElse event.gatewayId "unknown_gateway" ++ "." ++ orElse event.portId "unknown_port" ++ "." ++
    toString event.deviceId ++ "." ++ orElse event.pointKey "unknown" ++ "." ++
    orElse event.alarmType "emergency"

section Parsing

variable (stod : String -> Option Rat) (nowMs : Int)

def getJsonDoubleCompat (object : Json) (key : String) (defaultValue : Rat) : Rat :=
  match object.lookup key with
  | some (.int value) => doubleOfInt value
  | some (.real value) => value
  | some (.str text) => (stod text).getD defaultValue
  | _ => defaultValue

def alarmState (root : Json) : String :=
  let state := orElse (getJsonString root "state") (getJsonString root "status")
  orElse (if state = "acknowledged" then "acked" else state) "active"

def alarmPointName (pointKey pointName : String) : String :=
  orElse pointName
    (if pointKey = "temperature" then "温度" else if pointKey = "humidity" then "湿度" else "")

/-- The members of the event before its identifier is known. -/
def alarmFields (root : Json) : AlarmEvent :=
  let pointKey := orElse (getJsonStringCompat root "point_key" "pointKey") "unknown"
  { alarmId := orElse (getJsonString root "alarm_id") (getJsonString root "alarmId")
    timestampMs := getJsonInt64 root "timestampMs" (getJsonInt64 root "timestamp" nowMs)
    factoryId := getJsonStringCompat root "factory_id" "factoryId"
    factoryName := getJsonStringCompat root "factory_name" "factoryName"
    areaId := getJsonStringCompat root "area_id" "areaId"
    areaName := getJsonStringCompat root "area_name" "areaName"
    gatewayId := getJsonStringCompat root "gateway_id" "gatewayId"
    gatewayName := getJsonStringCompat root "gateway_name" "gatewayName"
    portId := getJsonStringCompat root "port_id" "portId"
    portName := getJsonStringCompat root "port_name" "portName"
    deviceId := getJsonInt root "deviceId" (getJsonInt root "device_id"
      (getJsonInt root "slave_id" (getJsonInt root "slaveAddr" (getJsonInt root "slaveAddress" 0))))
    deviceName := getJsonStringCompat root "device_name" "deviceName"
    deviceType := getJsonStringCompat root "device_type" "deviceType"
    pointKey := pointKey
    pointName := alarmPointName pointKey (getJsonStringCompat root "point_name" "pointName")
    alarmType := orElse (getJsonStringCompat root "alarm_type" "alarmType") "emergency"
    level := orElse (orElse (getJsonString root "level") (getJsonString root "alarm_level")) "warning"
    state := alarmState root
    value := getJsonDoubleCompat stod root "value" (getJsonDoubleCompat stod root "trigger_value" 0)
    threshold := getJsonDoubleCompat stod root "threshold"
      (getJsonDoubleCompat stod root "threshold_value" 0)
    message := orElse (orElse (getJsonString root "message") (getJsonString root "alarm_message"))
      "emergency alarm" }

/-- The event, and the reason if the function returns false. -/
def fillAlarmEventFromObject (root : Json) : AlarmEvent × Option String :=
  let fields := alarmFields stod nowMs root
  let event := { fields with alarmId := orElse fields.alarmId (buildStableAlarmId fields) }
  (event, if event.gatewayId = "" then some "gateway_id_missing" else none)

/-- A high reading of an older message form, when the point is not named. -/
def legacyReading (root : Json) (event : AlarmEvent) : AlarmEvent :=
  let temp := getJsonDoubleCompat stod root "temperature" 0
  let tempHigh := getJsonDoubleCompat stod root "temp_high"
    (getJsonDoubleCompat stod root "temperatureHigh" 0)
  let humi := getJsonDoubleCompat stod root "humidity" 0
  let humiHigh := getJsonDoubleCompat stod root "humi_high"
    (getJsonDoubleCompat stod root "humidityHigh" 0)
  if event.pointKey = "unknown" ∧ 0 < tempHigh ∧ tempHigh < temp then
    { event with
      pointKey := "temperature"
      alarmType := "threshold_high"
      value := temp
      threshold := tempHigh
      message := if event.message = "emergency alarm" then "temperature high" else event.message }
  else if event.pointKey = "unknown" ∧ 0 < humiHigh ∧ humiHigh < humi then
    { event with
      pointKey := "humidity"
      alarmType := "threshold_high"
      value := humi
      threshold := humiHigh
      message := if event.message = "emergency alarm" then "humidity high" else event.message }
  else event

def parseAlarmEventPayload (pc : JsonCodec) (payload : String) : Except String AlarmEvent :=
  match pc.parse payload with
  | some (.obj members) =>
      let root := Json.obj members
      let filled := fillAlarmEventFromObject stod nowMs root
      if getJsonString root "type" = "alarm_event" then
        match filled.2 with
        | none => .ok filled.1
        | some reason => .error reason
      else if getJsonString root "type" ≠ "command" ∨ getJsonString root "cmd" ≠ "emergency" then
        .error "not_alarm_payload"
      else
        let event := legacyReading stod root filled.1
        if event.gatewayId = "" then .error "gateway_id_missing"
        else .ok { event with alarmId := buildStableAlarmId event }
  | _ => .error "json_parse_failed"

/-- The gateway of the topic, and its port if it names one. -/
def alarmTopic (pc : JsonCodec) (topic payload : String) : Option (String × Option String) :=
  match parsePortUpTopic topic with
  | some (gatewayId, portId) => some (gatewayId, some portId)
  | none =>
      let payloadGatewayId := match pc.parse payload with
        | some (.obj members) => extractGatewayIdCompat (.obj members)
        | _ => extractJsonStringValue payload "gatewayId"
      if payloadGatewayId = "" ∨ !isValidGatewayUpTopic topic payloadGatewayId then none
      else some (payloadGatewayId, none)

def isAlarmMessage (payload : String) : Bool :=
  extractJsonStringValue payload "type" = "alarm_event" ||
    (extractJsonStringValue payload "type" = "command" &&
      extractJsonStringValue payload "cmd" = "emergency")

/-- The event `handle` gives to `saveAlarmEvent` with an open database. -/
def savedAlarm (pc : JsonCodec) (topic payload : String) : Option AlarmEvent :=
  if !isAlarmMessage payload then none
  else
    match alarmTopic pc topic payload, parseAlarmEventPayload stod nowMs pc payload with
    | some (topicGatewayId, topicPortId), .ok event =>
        if (event.gatewayId ≠ "" ∧ event.gatewayId ≠ topicGatewayId) ∨
            (event.portId ≠ "" ∧ topicPortId.isSome ∧ topicPortId ≠ some event.portId) then none
        else
          let placed := { event with
            portId := orElse event.portId (topicPortId.getD "")
            gatewayId := orElse event.gatewayId topicGatewayId }
          some { placed with alarmId := orElse placed.alarmId (buildStableAlarmId placed) }
    | _, _ => none

end Parsing
end Pc
end Imx6Gateway
