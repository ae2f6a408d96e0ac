import Imx6Gateway.Pc.Registration
import Imx6Gateway.Pc.TelemetryPack

namespace Imx6Gateway
namespace Pc

open Library

/-!
# Threshold messages in Pc_data

`PointConfigPackParser` reads the alarm limits of a `threshold_config`
message: from the points of a device where it lists them, and otherwise from
the two limits of the older form.  A limit of the older form also stands in
where a listed point names none.
-/

def getOptionalDouble (object : Json) (key : String) : Option Rat :=
  match object.lookup key with
  | some (.int value) => some (doubleOfInt value)
  | some (.real value) => some value
  | _ => none

def getOptionalDoubleAny (object : Json) (keys : List String) : Option Rat :=
  keys.findSome? (getOptionalDouble object)

/-- What the entries of one device share. -/
structure ThresholdSource where
  site : Json
  deviceId : Int
  deviceName : String
  deviceType : String
  thresholdEnabled : Bool
  thresholdConfig : Json
  thresholds : Json
  timestampMs : Int

/-- The keys of the older form. -/
def legacyLimitKeys (pointKey : String) : List String :=
  if pointKey = "temperature" then ["temp_high", "tempHigh"]
  else if pointKey = "humidity" then ["humi_high", "humiHigh"]
  else []

def legacyLimit (source : ThresholdSource) (pointKey : String) : Option Rat :=
  (getOptionalDoubleAny source.thresholds (legacyLimitKeys pointKey)).or
    (getOptionalDoubleAny source.thresholdConfig (legacyLimitKeys pointKey))

def alarmEnabled (source : ThresholdSource) (own : Bool) : Bool :=
  if source.thresholdConfig.isObj then getJsonBoolAny source.thresholdConfig ["enable"] own else own

/-- `basePointConfig` with the members that both forms add. -/
def basePointConfig (source : ThresholdSource) (pointKey pointName unit valueType : String)
    (enableAlarm : Bool) (alarmLow alarmHigh : Option Rat) : PointConfig :=
  let text (key : String) : String := getString source.site key ""
  { pointId := text "factoryId" ++ "." ++ text "areaId" ++ "." ++ text "gatewayId" ++ "." ++
      text "portId" ++ "." ++ toString source.deviceId ++ "." ++ pointKey
    factoryId := text "factoryId"
    factoryName := text "factoryName"
    areaId := text "areaId"
    areaName := text "areaName"
    gatewayId := text "gatewayId"
    gatewayName := text "gatewayName"
    portId := text "portId"
    portName := text "portName"
    deviceId := source.deviceId
    deviceName := source.deviceName
    deviceType := source.deviceType
    pointKey := pointKey
    pointName := pointName
    unit := unit
    valueType := valueType
    enableAlarm := enableAlarm
    alarmLow := alarmLow
    alarmHigh := alarmHigh
    enabled := true
    timestampMs := source.timestampMs }

/-- The point of an entry can be identified. -/
def PointConfig.identified (config : PointConfig) : Bool :=
  config.pointKey ≠ "" ∧ config.factoryId ≠ "" ∧ config.areaId ≠ "" ∧ config.gatewayId ≠ "" ∧
    config.portId ≠ "" ∧ 0 < config.deviceId

def legacyPointConfig (source : ThresholdSource) (pointKey unit : String) : PointConfig :=
  basePointConfig source pointKey pointKey unit "number" (alarmEnabled source source.thresholdEnabled)
    none (legacyLimit source pointKey)

def legacyThresholdConfigs (source : ThresholdSource) : List PointConfig :=
  [legacyPointConfig source "temperature" "c", legacyPointConfig source "humidity" "%"].filter
    fun config => config.identified && config.alarmHigh.isSome

def listedPointConfig (source : ThresholdSource) (point : Json) : PointConfig :=
  let pointKey := getString point "pointKey" ""
  let own := getJsonBoolAny point ["enableAlarm", "enable_alarm"] source.thresholdEnabled
  basePointConfig source pointKey (getString point "pointName" "") (getString point "unit" "")
    (getString point "valueType" "number") (alarmEnabled source own)
    (getOptionalDoubleAny point ["alarmLow", "alarm_low"])
    ((getOptionalDoubleAny point ["alarmHigh", "alarm_high"]).or (legacyLimit source pointKey))

def deviceThresholds (site : Json) (timestampMs : Int) (device : Json) : List PointConfig :=
  let thresholdConfig := (memberObject device "threshold_config").getD
    (nestedObject device "thresholdConfig")
  let source : ThresholdSource :=
    { site := site
      deviceId := getJsonIntAny device ["deviceId", "slave_id", "slaveAddress"] 0
      deviceName := getString device "deviceName" ""
      deviceType := getJsonStringAny device ["deviceType", "device_type"]
      thresholdEnabled := getJsonBoolAny device ["threshold_enabled", "thresholdEnabled"] false
      thresholdConfig := thresholdConfig
      thresholds := (memberObject device "thresholds").getD
        (nestedObject thresholdConfig "thresholds")
      timestampMs := timestampMs }
  match memberArray device "points" with
  | none => legacyThresholdConfigs source
  | some points =>
      ((points.filter Json.isObj).map (listedPointConfig source)).filter PointConfig.identified

/-- `PointConfigPackParser::parseJson`; its wordings are only logged. -/
def parsePointConfigPack (nowMs : Int) (root : Json) : Option (List PointConfig) :=
  if getString root "type" "" ≠ "threshold_config" then none
  else
    match memberArray root "devices" with
    | none => none
    | some devices =>
        let timestampMs := getJsonInt64Any root ["timestampMs", "timestamp", "time"] nowMs
        some ((devices.filter Json.isObj).flatMap
          (deviceThresholds (nestedObject root "site") timestampMs))

/-- A device either lists its points or has the older form, and every entry
names the device and its port. -/
theorem identified_deviceThresholds {site device : Json} {timestampMs : Int} {config : PointConfig}
    (read : config ∈ deviceThresholds site timestampMs device) : config.identified = true := by
  unfold deviceThresholds at read
  split at read
  · rw [legacyThresholdConfigs, List.mem_filter, Bool.and_eq_true] at read
    exact read.2.1
  · exact (List.mem_filter.mp read).2

theorem identified_parsePointConfigPack {nowMs : Int} {root : Json} {configs : List PointConfig}
    (parsed : parsePointConfigPack nowMs root = some configs) {config : PointConfig}
    (inside : config ∈ configs) : config.identified = true := by
  unfold parsePointConfigPack at parsed
  split at parsed
  · cases parsed
  · split at parsed
    · cases parsed
    · injection parsed with same
      rw [← same, List.mem_flatMap] at inside
      rcases inside with ⟨device, -, read⟩
      exact identified_deviceThresholds read

end Pc
end Imx6Gateway
