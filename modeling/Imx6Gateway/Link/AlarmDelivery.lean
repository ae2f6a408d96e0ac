import Imx6Gateway.Board.ThresholdAlarm
import Imx6Gateway.Link.Exchange
import Imx6Gateway.Pc.AlarmEvent

namespace Imx6Gateway
namespace Link

open Library Board Pc

/-!
# Threshold alarms from the board to the database

The board sends an alarm on the topic of the port and leaves the gateway out
of the text.  Pc_data takes the message for an alarm, but its parser asks for
the gateway before the handler fills it in from the topic, so the alarm is
refused.
-/

/-- The direction of an alarm, as Pc_data writes it in `alarmType`. -/
def directionOf (event : ThresholdAlarmEvent) : String :=
  if event.value.1 > event.threshold.1 then "threshold_high" else "threshold_low"

/-- The alarm reached the database as the board meant it. -/
def AlarmStored (slot : Int) (slaveId : Int32) (event : ThresholdAlarmEvent)
    (saved : Option AlarmEvent) : Prop :=
  exists stored, saved = some stored ∧ stored.gatewayId = defaultGatewayId ∧
    stored.portId = portIdFromSlot slot ∧ stored.deviceId = slaveId.toInt ∧
    stored.pointKey = event.pointKey ∧ stored.alarmType = directionOf event ∧
    stored.value = event.value.1 ∧ stored.threshold = event.threshold.1

theorem lookup_alarmReadings (dev : Board.DeviceData) {key : String} (temp : key ≠ "temp")
    (humi : key ≠ "humi") : (alarmReadings dev).lookup key = none := by
  rw [List.lookup_eq_none_iff]
  unfold alarmReadings
  split
  · intro member inside
    rcases List.mem_pair.mp inside with rfl | rfl
    · simpa using temp
    · simpa using humi
  · intro member inside
    cases inside

section Delivery

variable (link : Exchange) (stod : String -> Option Rat) (nowMs : Int)
  (slaveId : Int32) (deviceTypeName : String) (dev : Board.DeviceData) (event : ThresholdAlarmEvent)

theorem pc_reads_alarm :
    link.pc.parse (link.board.print (thresholdAlarmJson slaveId deviceTypeName dev event)) =
      some (thresholdAlarmJson slaveId deviceTypeName dev event) :=
  link.pc_reads _ (wire_thresholdAlarmJson slaveId deviceTypeName dev event)

theorem lookup_thresholdAlarmJson {key : String} (temp : key ≠ "temp") (humi : key ≠ "humi") :
    (thresholdAlarmJson slaveId deviceTypeName dev event).lookup key =
      ([("type", .str "command"), ("cmd", .str "emergency"), ("level", .int 1),
        ("reason", .str event.reason), ("deviceId", jsonInt slaveId),
        ("deviceType", .str deviceTypeName), ("pointKey", .str event.pointKey),
        ("value", jsonSingle event.value), ("threshold", jsonSingle event.threshold)] :
          List (String × Json)).lookup key := by
  rw [thresholdAlarmJson, Json.lookup_obj, List.lookup_append, lookup_alarmReadings dev temp humi,
    Option.or_none]

theorem alarm_front : exists rest,
    (link.board.print (thresholdAlarmJson slaveId deviceTypeName dev event)).toList =
      '\x7b' :: (frontText ("type", "command") [("cmd", "emergency")] ++ rest) :=
  link.board_compact ("type", "command") [("cmd", "emergency")] _ (by decide)

/-- Pc_data recognises the message. -/
theorem isAlarmMessage_thresholdAlarm :
    isAlarmMessage (link.board.print (thresholdAlarmJson slaveId deviceTypeName dev event)) = true := by
  rcases alarm_front link slaveId deviceTypeName dev event with ⟨rest, shape⟩
  have type := extract_first [("cmd", "emergency")] (by decide) shape
  have cmd : extractJsonStringValue
      (link.board.print (thresholdAlarmJson slaveId deviceTypeName dev event)) "cmd" =
        "emergency" := by
    apply extract_found (by decide)
    rw [shape]
    rfl
  rw [isAlarmMessage, type, cmd]
  decide

/-- The text names no gateway. -/
theorem alarmFields_gatewayId :
    (alarmFields stod nowMs (thresholdAlarmJson slaveId deviceTypeName dev event)).gatewayId =
      "" := by
  have snake : (thresholdAlarmJson slaveId deviceTypeName dev event).lookup "gateway_id" = none :=
    lookup_thresholdAlarmJson slaveId deviceTypeName dev event (by decide) (by decide)
  have camel : (thresholdAlarmJson slaveId deviceTypeName dev event).lookup "gatewayId" = none :=
    lookup_thresholdAlarmJson slaveId deviceTypeName dev event (by decide) (by decide)
  simp only [alarmFields, getJsonStringCompat, getJsonString, snake, camel, orElse, if_true]

theorem legacyReading_gatewayId (root : Json) (parsed : AlarmEvent) :
    (legacyReading stod root parsed).gatewayId = parsed.gatewayId := by
  unfold legacyReading
  simp only
  split
  · rfl
  · split <;> rfl

theorem parseAlarmEventPayload_thresholdAlarm :
    parseAlarmEventPayload stod nowMs link.pc
      (link.board.print (thresholdAlarmJson slaveId deviceTypeName dev event)) =
      .error "gateway_id_missing" := by
  have type : getJsonString (thresholdAlarmJson slaveId deviceTypeName dev event) "type" =
      "command" := by
    rw [getJsonString, lookup_thresholdAlarmJson _ _ _ _ (by decide) (by decide)]
    rfl
  have cmd : getJsonString (thresholdAlarmJson slaveId deviceTypeName dev event) "cmd" =
      "emergency" := by
    rw [getJsonString, lookup_thresholdAlarmJson _ _ _ _ (by decide) (by decide)]
    rfl
  have unnamed := alarmFields_gatewayId stod nowMs slaveId deviceTypeName dev event
  have object : thresholdAlarmJson slaveId deviceTypeName dev event = .obj _ := rfl
  unfold parseAlarmEventPayload
  rw [pc_reads_alarm, object]
  simp only
  rw [← object, type, cmd]
  simp [fillAlarmEventFromObject, legacyReading_gatewayId, unnamed]

theorem savedAlarm_thresholdAlarm (topic : String) :
    savedAlarm stod nowMs link.pc topic
      (link.board.print (thresholdAlarmJson slaveId deviceTypeName dev event)) = none := by
  rw [savedAlarm, isAlarmMessage_thresholdAlarm, parseAlarmEventPayload_thresholdAlarm]
  split
  · rfl
  · split
    · rename_i impossible
      cases impossible
    · rfl

theorem not_alarmStored_none (slot : Int) : ¬ AlarmStored slot slaveId event none := by
  rintro ⟨stored, impossible, -⟩
  cases impossible

/-- Every alarm the board publishes is refused, whatever its slot, device,
point and limit. -/
theorem thresholdAlarm_dropped (slot : Int) (topic payload : String)
    (published : publishThresholdAlarm link.board slot slaveId deviceTypeName dev event =
      some (topic, payload)) :
    ¬ AlarmStored slot slaveId event (savedAlarm stod nowMs link.pc topic payload) := by
  have text : payload = link.board.print (thresholdAlarmJson slaveId deviceTypeName dev event) := by
    unfold publishThresholdAlarm at published
    split at published
    · cases published
    · rw [mqttMakePortUpTopicForSlot_eq, Option.map_some] at published
      injection published with pair
      exact (congrArg Prod.snd pair).symm
  rw [text, savedAlarm_thresholdAlarm]
  exact not_alarmStored_none slaveId event slot

end Delivery

def degrees (value : Int) (small : value.natAbs < 2 ^ 24) : Single :=
  ⟨value, FloatFormat.representable_small value small⟩

theorem limit_small : (35 : Int).natAbs < 2 ^ 24 := by decide
theorem heat_small : (40 : Int).natAbs < 2 ^ 24 := by decide
theorem moisture_small : (50 : Int).natAbs < 2 ^ 24 := by decide

/-- A sensor with one limit, at 35 degrees. -/
def limitedSensor : TemperatureHumiditySensor where
  slaveId := 1
  config := some ⟨true, ⟨true, none, some (degrees 35 limit_small)⟩, ⟨false, none, none⟩⟩
  lastTemperatureAlarm := false
  lastHumidityAlarm := false

def hotReading : Board.DeviceData where
  deviceId := 1
  deviceName := "Device 1"
  valid := true
  errorMessage := ""
  reading := .sensorTh (degrees 40 heat_small) (degrees 50 moisture_small)

def hotAlarm : ThresholdAlarmEvent where
  active := true
  reason := "temperature_high"
  value := degrees 40 heat_small
  threshold := degrees 35 limit_small
  pointKey := "temperature"

def hotAlarmText : String :=
  Exchange.jsonText.board.print (thresholdAlarmJson 1 "sensor_th" hotReading hotAlarm)

theorem hotAlarm_published :
    publishThresholdAlarm Exchange.jsonText.board 0 1 "sensor_th" hotReading hotAlarm =
      some ("gateway/gateway_001/port_001/up", hotAlarmText) := by
  rw [publishThresholdAlarm, mqttMakePortUpTopicForSlot_eq]
  rfl

theorem hotAlarm_refused :
    ¬ AlarmStored 0 1 hotAlarm (savedAlarm (fun _ => none) 0 Exchange.jsonText.pc
      "gateway/gateway_001/port_001/up" hotAlarmText) :=
  thresholdAlarm_dropped Exchange.jsonText (fun _ => none) 0 1 "sensor_th" hotReading hotAlarm 0
    "gateway/gateway_001/port_001/up" hotAlarmText hotAlarm_published

/-- The sensor reports the alarm, the board publishes it, and nothing is stored. -/
theorem hotAlarm_lost :
    (limitedSensor.checkThreshold hotReading).2 = some hotAlarm ∧
    publishThresholdAlarm Exchange.jsonText.board 0 1 "sensor_th" hotReading hotAlarm =
      some ("gateway/gateway_001/port_001/up", hotAlarmText) ∧
    savedAlarm (fun _ => none) 0 Exchange.jsonText.pc "gateway/gateway_001/port_001/up"
      hotAlarmText = none ∧
    ¬ AlarmStored 0 1 hotAlarm (savedAlarm (fun _ => none) 0 Exchange.jsonText.pc
      "gateway/gateway_001/port_001/up" hotAlarmText) := by
  have none := savedAlarm_thresholdAlarm Exchange.jsonText (fun _ => none) 0 1 "sensor_th"
    hotReading hotAlarm "gateway/gateway_001/port_001/up"
  refine ⟨by decide +kernel, hotAlarm_published, none, ?_⟩
  rw [hotAlarmText, none]
  exact not_alarmStored_none 1 hotAlarm 0

end Link
end Imx6Gateway
