import Imx6Gateway.Board.DeviceData
import Imx6Gateway.Board.JsonC
import Imx6Gateway.Board.MqttTopic

namespace Imx6Gateway
namespace Board

open Library

/-!
# Threshold alarms of the board

A temperature and humidity sensor compares its readings with its thresholds
and reports the first reading that leaves its range, once until it is back.
`publishThresholdAlarm` makes a message of the report.  The copies for the
local user interface and for the offline cache are left out.
-/

/-- What a sensor reports. -/
structure ThresholdAlarmEvent where
  active : Bool
  reason : String
  value : Single
  threshold : Single
  pointKey : String
deriving DecidableEq

structure TemperatureHumiditySensor where
  slaveId : Int32
  config : Option SensorThresholdConfig
  lastTemperatureAlarm : Bool
  lastHumidityAlarm : Bool
deriving DecidableEq

/-- The limit a value is beyond, with the end of the alarm's name. -/
def limitBeyond (threshold : PointThresholdConfig) (value : Single) : Option (Single × String) :=
  match threshold.alarmHigh with
  | some high =>
      if high.1 < value.1 then some (high, "_high")
      else
        match threshold.alarmLow with
        | some low => if value.1 < low.1 then some (low, "_low") else none
        | none => none
  | none =>
      match threshold.alarmLow with
      | some low => if value.1 < low.1 then some (low, "_low") else none
      | none => none

/-- The point's new alarm state, and the report if there is one. -/
def checkPoint (pointKey : String) (threshold : PointThresholdConfig) (value : Single)
    (lastState : Bool) : Bool × Option ThresholdAlarmEvent :=
  if !threshold.enableAlarm then (lastState, none)
  else
    match limitBeyond threshold value with
    | none => (false, none)
    | some (limit, suffix) =>
        if lastState then (true, none)
        else (true, some ⟨true, copyText 64 (pointKey ++ suffix), value, limit, copyText 32 pointKey⟩)

def TemperatureHumiditySensor.checkThreshold (sensor : TemperatureHumiditySensor)
    (dev : DeviceData) : TemperatureHumiditySensor × Option ThresholdAlarmEvent :=
  match sensor.config, dev.reading with
  | some config, .sensorTh temperature humidity =>
      if !config.thresholdEnabled || !dev.valid then (sensor, none)
      else
        match checkPoint "temperature" config.temperature temperature
            sensor.lastTemperatureAlarm with
        | (state, some event) => ({ sensor with lastTemperatureAlarm := state }, some event)
        | (state, none) =>
            let point := checkPoint "humidity" config.humidity humidity sensor.lastHumidityAlarm
            ({ sensor with lastTemperatureAlarm := state, lastHumidityAlarm := point.1 }, point.2)
  | _, _ => (sensor, none)

/-- The readings of a temperature and humidity sensor travel with its alarm. -/
def alarmReadings (dev : DeviceData) : List (String × Json) :=
  match dev.reading with
  | .sensorTh temperature humidity =>
      [("temp", jsonSingle temperature), ("humi", jsonSingle humidity)]
  | _ => []

def thresholdAlarmJson (slaveId : Int32) (deviceTypeName : String) (dev : DeviceData)
    (event : ThresholdAlarmEvent) : Json :=
  .obj ([("type", .str "command"), ("cmd", .str "emergency"), ("level", .int 1),
    ("reason", .str event.reason), ("deviceId", jsonInt slaveId),
    ("deviceType", .str deviceTypeName), ("pointKey", .str event.pointKey),
    ("value", jsonSingle event.value), ("threshold", jsonSingle event.threshold)] ++
    alarmReadings dev)

/-- The topic and the text of the message.  A sensor is known by its address
and the name of its type. -/
def publishThresholdAlarm (library : JsonC) (slot : Int) (slaveId : Int32)
    (deviceTypeName : String) (dev : DeviceData) (event : ThresholdAlarmEvent) :
    Option (String × String) :=
  if !event.active then none
  else (mqttMakePortUpTopicForSlot topicSize slot).map fun topic =>
    (topic, library.print (thresholdAlarmJson slaveId deviceTypeName dev event))

theorem wire_thresholdAlarmJson (slaveId : Int32) (deviceTypeName : String) (dev : DeviceData)
    (event : ThresholdAlarmEvent) :
    (thresholdAlarmJson slaveId deviceTypeName dev event).Wire Json.maxDepth := by
  have readings : forall member, member ∈ alarmReadings dev -> member.2.Wire 30 := by
    intro member inside
    unfold alarmReadings at inside
    split at inside
    · rcases List.mem_pair.mp inside with rfl | rfl <;> simp only [wire_jsonSingle]
    · cases inside
  have keys : (alarmReadings dev).map Prod.fst = ["temp", "humi"] ∨ alarmReadings dev = [] := by
    unfold alarmReadings
    split <;> simp
  rw [thresholdAlarmJson, Json.maxDepth, Json.wire_obj_succ, List.map_append]
  constructor
  · rcases keys with named | empty
    · rw [named]
      simp
    · rw [empty]
      simp
  · intro member inside
    rcases List.mem_append.mp inside with fixed | reading
    · simp only [List.mem_cons, List.not_mem_nil, or_false] at fixed
      rcases fixed with rfl | rfl | rfl | rfl | rfl | rfl | rfl | rfl | rfl <;> simp
    · exact readings member reading

theorem portIdFromSlot_level (slot : Int) :
    portIdFromSlot slot ≠ "" ∧ '/' ∉ (portIdFromSlot slot).toList := by
  unfold portIdFromSlot
  split <;> decide

/-- The topic buffer holds the topic of every slot. -/
theorem mqttMakePortUpTopicForSlot_eq (slot : Int) :
    mqttMakePortUpTopicForSlot topicSize slot =
      some ("gateway/" ++ defaultGatewayId ++ "/" ++ portIdFromSlot slot ++ "/up") := by
  unfold mqttMakePortUpTopicForSlot portIdFromSlot
  split <;> rfl

end Board
end Imx6Gateway
