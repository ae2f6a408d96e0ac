import Imx6Gateway.Board.ConfigExport

namespace Imx6Gateway
namespace Board

open Library

/-!
# Threshold messages of the board

`publishThresholdConfig` tells Pc_data the thresholds of one sensor after they
were set.  The message gives every point the flag that counts on the board:
that of the point and that of the sensor together.
-/

/-- One entry of `points[]`. -/
def thresholdPointEntry (config : RequestedThresholds) (key name unit : String)
    (threshold : RequestedPoint) : Json :=
  let effectiveEnable := config.thresholdEnabled && threshold.enableAlarm
  .obj [("pointKey", .str key), ("pointName", .str name), ("unit", .str unit),
    ("valueType", .str "number"), ("enable_alarm", .bool effectiveEnable),
    ("enableAlarm", .bool effectiveEnable), ("alarm_low", limitJson threshold.alarmLow),
    ("alarmLow", limitJson threshold.alarmLow), ("alarm_high", limitJson threshold.alarmHigh),
    ("alarmHigh", limitJson threshold.alarmHigh)]

def thresholdPointEntries (config : RequestedThresholds) : List Json :=
  [thresholdPointEntry config "temperature" "Temperature" "C" config.temperature,
    thresholdPointEntry config "humidity" "Humidity" "%" config.humidity]

def thresholdDeviceEntry (slot : Slot) (channel : PortChannel) (device : ManagedDevice)
    (config : RequestedThresholds) : Json :=
  .obj [("slot", jsonInt (slotNumber slot)), ("port", .str channel.port),
    ("baud", jsonInt channel.baud), ("deviceId", jsonInt device.slaveId), ("deviceName", .str ""),
    ("deviceType", .str (deviceTypeName device.deviceType)),
    ("thresholdEnabled", .bool config.thresholdEnabled),
    ("points", .arr (thresholdPointEntries config))]

def thresholdSite (slot : Slot) : SiteContext :=
  { fillDefaultSite with portId := portIdForSlot slot, portName := portNameForSlot slot }

/-- The message of `publishThresholdConfig`; a sensor without thresholds has
none. -/
def thresholdConfigMessage (nowMs : Int64) (slot : Slot) (channel : PortChannel)
    (device : ManagedDevice) : Option Json :=
  device.thresholdConfig.map fun config =>
    .obj [("type", .str "threshold_config"), ("version", .int 1),
      ("timestampMs", .int nowMs.toInt), ("sourceId", .str "gateway_001"),
      ("targetId", .str "pc_data_001"), ("site", siteToJson (thresholdSite slot)),
      ("devices", .arr [thresholdDeviceEntry slot channel device config])]

theorem wire_thresholdConfigMessage {nowMs : Int64} {slot : Slot} {channel : PortChannel}
    {device : ManagedDevice} {message : Json}
    (sent : thresholdConfigMessage nowMs slot channel device = some message) :
    message.Wire Json.maxDepth := by
  rcases Option.map_eq_some_iff.mp sent with ⟨config, -, rfl⟩
  have point : forall key name unit threshold,
      (thresholdPointEntry config key name unit threshold).Wire 27 := by
    intro key name unit threshold
    simp [thresholdPointEntry, Json.wire_obj_succ]
  have entry : (thresholdDeviceEntry slot channel device config).Wire 29 := by
    simp [thresholdDeviceEntry, thresholdPointEntries, Json.wire_obj_succ, Json.wire_arr_succ, point]
  have site : (siteToJson (thresholdSite slot)).Wire 30 := by
    simp [siteToJson, Json.wire_obj_succ]
  have time : (Json.int nowMs.toInt).Wire 30 := by
    have low := nowMs.le_toInt
    have high := nowMs.toInt_lt
    rw [Json.wire_int]
    omega
  simp [Json.maxDepth, Json.wire_obj_succ, Json.wire_arr_succ, entry, site, time]

end Board
end Imx6Gateway
