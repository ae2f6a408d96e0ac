import Imx6Gateway.Pc.JsonUtils

namespace Imx6Gateway
namespace Pc

open Library

/-!
# Telemetry in Pc_data

`TelemetryPackParser` reads a pack, and `ModelConverter` unfolds its devices
into points.  The parser takes a value from the list of points if it is there,
and from the members of the device otherwise.  `std::stod` is a parameter.
-/

/-- A C++ `float`; `none` is an infinite one. -/
abbrev CppFloat : Type := Option (FloatFormat.Value FloatFormat.binary32)

inductive DeviceType where
  | unknown
  | sensorTh
  | relay
  | electricMeter
  | sysInfo
deriving DecidableEq, Repr

structure DeviceData where
  deviceId : Int
  deviceName : String
  type : DeviceType
  valid : Bool
  errorMessage : String
  pointKeys : List String
  temperature : CppFloat
  humidity : CppFloat
  voltage : CppFloat
  current : CppFloat
  power : CppFloat
  energy : CppFloat
  relayStates : BitVec 16
  channelCount : Int
  kernel : String
  arch : String
  os : String
  screenWidth : Int
  screenHeight : Int
  cpuUsage : Rat
  memoryUsage : Rat
deriving DecidableEq

structure SiteContext where
  factoryId : String
  factoryName : String
  areaId : String
  areaName : String
  gatewayId : String
  gatewayName : String
  portId : String
  portName : String
deriving DecidableEq

structure TelemetryPack where
  version : Int
  sequence : Int
  timestampMs : Int
  sourceId : String
  targetId : String
  site : SiteContext
  devices : List DeviceData
deriving DecidableEq

/-- `std::stoi`; `none` is an exception. -/
def stoi (text : String) : Option Int :=
  let read (negative : Bool) (text : List Char) : Option Int :=
    let digits := text.takeWhile Char.isDigit
    let value : Int := Nat.ofDigitChars 10 digits 0
    let signed := if negative then -value else value
    if digits = [] ∨ signed < -2 ^ 31 ∨ 2 ^ 31 ≤ signed then none else some signed
  match text.toList.dropWhile Char.isWhitespace with
  | '-' :: rest => read true rest
  | '+' :: rest => read false rest
  | rest => read false rest

def getString (object : Json) (key defaultValue : String) : String :=
  match object.lookup key with
  | some (.str text) => text
  | _ => defaultValue

def getInt (object : Json) (key : String) (defaultValue : Int) : Int :=
  match object.lookup key with
  | some (.int value) => toInt value
  | some (.real value) => toInt (truncate value)
  | some (.str text) => (stoi text).getD defaultValue
  | _ => defaultValue

def getBool (object : Json) (key : String) (defaultValue : Bool) : Bool :=
  match object.lookup key with
  | some (.bool value) => value
  | some (.int value) => value ≠ 0
  | some (.real value) => value ≠ 0
  | _ => defaultValue

theorem getString_of_lookup {object : Json} {key text : String} (defaultValue : String)
    (found : object.lookup key = some (.str text)) : getString object key defaultValue = text := by
  rw [getString, found]

theorem getInt_of_lookup {object : Json} {key : String} {value : Int} (defaultValue : Int)
    (found : object.lookup key = some (.int value)) :
    getInt object key defaultValue = toInt value := by
  rw [getInt, found]

theorem getBool_of_lookup {object : Json} {key : String} {value : Bool} (defaultValue : Bool)
    (found : object.lookup key = some (.bool value)) :
    getBool object key defaultValue = value := by
  rw [getBool, found]

def parseDeviceType (type : String) : DeviceType :=
  if type = "sensor_th" then .sensorTh
  else if type = "electric_meter" ∨ type = "meter" then .electricMeter
  else if type = "relay" then .relay
  else if type = "sysinfo" then .sysInfo
  else .unknown

def nestedObject (object : Json) (key : String) : Json :=
  (memberObject object key).getD .null

def relayMaxChannelCount : Int := 64

def validRelayChannelCount (value : Int) : Int :=
  if 1 ≤ value ∧ value ≤ relayMaxChannelCount then value else 0

def firstValidRelayChannelCount (object : Json) : Int :=
  let first := validRelayChannelCount (getInt object "channelCount" 0)
  if 0 < first then first else validRelayChannelCount (getInt object "channel_count" 0)

def declaredRelayChannelCount (item relay : Json) : Int :=
  let own := firstValidRelayChannelCount item
  if 0 < own then own else firstValidRelayChannelCount relay

def legacyRelayChannelCount (item relay : Json) : Int :=
  let declared := declaredRelayChannelCount item relay
  if declared ≤ 0 then 16 else declared

/-- The channel in the key of a point, one if there is none. -/
def relayChannelIndex (pointKey : String) : Int :=
  let suffix := match afterFront "relay.ch".toList pointKey.toList with
    | some rest => rest
    | none => (afterFront "relay_".toList pointKey.toList).getD []
  match stoi (String.ofList suffix) with
  | some channel => if 0 < channel then channel else 1
  | none => 1

def isRelayKey (pointKey : String) : Bool :=
  pointKey = "relay" || (afterFront "relay.".toList pointKey.toList).isSome ||
    (afterFront "relay_".toList pointKey.toList).isSome

/-- What has been read from the list of points so far. -/
structure PointScan where
  pointKeys : List String
  temperature : Option CppFloat
  humidity : Option CppFloat
  relayStates : BitVec 16
  hasRelay : Bool
  maxChannel : Int
deriving DecidableEq

def PointScan.start : PointScan :=
  ⟨[], none, none, 0, false, 0⟩

section Parsing

variable (stod : String -> Option Rat)

def getDouble (object : Json) (key : String) (defaultValue : Rat) : Rat :=
  match object.lookup key with
  | some (.int value) => doubleOfInt value
  | some (.real value) => value
  | some (.str text) => (stod text).getD defaultValue
  | _ => defaultValue

/-- `static_cast<float>(getDouble(...))`. -/
def getFloat (object : Json) (key : String) (defaultValue : Rat) : CppFloat :=
  FloatFormat.binary32.round (getDouble stod object key defaultValue)

theorem getFloat_of_lookup {object : Json} {key : String}
    {value : FloatFormat.Value FloatFormat.binary32} (defaultValue : Rat)
    (found : object.lookup key = some (.real value.1)) :
    getFloat stod object key defaultValue = some value := by
  rw [getFloat, getDouble, found]
  exact FloatFormat.round_value value

theorem getDouble_of_lookup {object : Json} {key : String} {value : Rat} (defaultValue : Rat)
    (found : object.lookup key = some (.real value)) :
    getDouble stod object key defaultValue = value := by
  rw [getDouble, found]

def pointNumber (point : Json) : CppFloat :=
  getFloat stod point "numberValue" (getDouble stod point "value" 0)

/-- Adds the relay channel of a point to the scan. -/
def PointScan.withChannel (scan : PointScan) (channel : Int) (on : Bool) : PointScan where
  pointKeys := scan.pointKeys
  temperature := scan.temperature
  humidity := scan.humidity
  relayStates :=
    if 1 ≤ channel ∧ channel ≤ 16 ∧ on then scan.relayStates ||| (1#16 <<< (channel - 1).toNat)
    else scan.relayStates
  hasRelay := true
  maxChannel :=
    if 1 ≤ channel ∧ channel ≤ relayMaxChannelCount ∧ scan.maxChannel < channel then channel
    else scan.maxChannel

def PointScan.withKey (scan : PointScan) (pointKey : String) : PointScan :=
  if pointKey = "" then scan else { scan with pointKeys := scan.pointKeys ++ [pointKey] }

def scanPoint (scan : PointScan) (point : Json) : PointScan :=
  let pointKey := getString point "pointKey" ""
  let scan := scan.withKey pointKey
  if pointKey = "temperature" then { scan with temperature := some (pointNumber stod point) }
  else if pointKey = "humidity" then { scan with humidity := some (pointNumber stod point) }
  else if isRelayKey pointKey then
    scan.withChannel (relayChannelIndex pointKey)
      (getBool point "boolValue" (getDouble stod point "numberValue" 0 ≠ 0))
  else scan

theorem scanPoint_relay (scan : PointScan) {point : Json} {pointKey : String} {on : Bool}
    (named : point.lookup "pointKey" = some (.str pointKey))
    (value : point.lookup "boolValue" = some (.bool on)) (relay : isRelayKey pointKey = true) :
    scanPoint stod scan point =
      (scan.withKey pointKey).withChannel (relayChannelIndex pointKey) on := by
  have notTemperature : pointKey ≠ "temperature" := by
    rintro rfl
    cases relay
  have notHumidity : pointKey ≠ "humidity" := by
    rintro rfl
    cases relay
  rw [scanPoint, getString_of_lookup "" named, if_neg notTemperature, if_neg notHumidity,
    if_pos relay, getBool_of_lookup _ value]

def scanPoints (item : Json) : PointScan :=
  ((memberArray item "points").getD []).foldl (scanPoint stod) PointScan.start

/-- A value of the device itself, or of the object for its type. -/
def flatOrNested (item nested : Json) (key : String) : CppFloat :=
  getFloat stod item key (getDouble stod nested key 0)

theorem flatOrNested_of_lookup {item : Json} {key : String}
    {value : FloatFormat.Value FloatFormat.binary32} (nested : Json)
    (found : item.lookup key = some (.real value.1)) :
    flatOrNested stod item nested key = some value :=
  getFloat_of_lookup stod _ found

def deviceTypeText (item : Json) : String :=
  let named := getJsonStringAny item ["deviceType", "device_type"]
  if named = "" then getString item "type" "unknown" else named

/-- Validity and message of a device after the checks of its identity. -/
def identityChecks (deviceId : Int) (type : DeviceType) (valid : Bool) (errorMessage : String) :
    Bool × String :=
  let first := if deviceId ≤ 0 then
      (false, if errorMessage = "" then "missing_deviceId" else errorMessage)
    else (valid, errorMessage)
  if type = .unknown then (false, if first.2 = "" then "unknown_device_type" else first.2)
  else first

def lacks (item : Json) (key : String) : Bool :=
  (item.lookup key).isNone

/-- The same after the checks of its values. -/
def valueChecks (item : Json) (scan : PointScan) (type : DeviceType) (checked : Bool × String) :
    Bool × String :=
  let first := if checked.1 && type = .sensorTh && scan.temperature.isNone &&
      lacks item "temperature" && lacks (nestedObject item "th") "temperature" then
      (false, "missing_temperature")
    else checked
  if first.1 && type = .relay && !scan.hasRelay && lacks item "relayStates" &&
      lacks item "states" && lacks (nestedObject item "relay") "relayStates" then
    (false, "missing_relayStates")
  else first

def relayChannelCount (item : Json) (scan : PointScan) : Int :=
  let declared := declaredRelayChannelCount item (nestedObject item "relay")
  if 0 < declared then if declared < scan.maxChannel then scan.maxChannel else declared
  else if 0 < scan.maxChannel then scan.maxChannel
  else legacyRelayChannelCount item (nestedObject item "relay")

def parseDevice (item : Json) : DeviceData :=
  let deviceId := getInt item "deviceId" (getInt item "slave_id"
    (getInt item "slaveAddress" (getInt item "id" 0)))
  let type := parseDeviceType (deviceTypeText item)
  let scan := scanPoints stod item
  let th := nestedObject item "th"
  let meter := nestedObject item "meter"
  let relay := nestedObject item "relay"
  let sys := nestedObject item "sys"
  let checked := valueChecks item scan type (identityChecks deviceId type
    (getBool item "valid" true) (getString item "errorMessage" ""))
  { deviceId := deviceId
    deviceName := getString item "deviceName" ""
    type := type
    valid := checked.1
    errorMessage := checked.2
    pointKeys := scan.pointKeys
    temperature := scan.temperature.getD (flatOrNested stod item th "temperature")
    humidity := scan.humidity.getD (flatOrNested stod item th "humidity")
    voltage := flatOrNested stod item meter "voltage"
    current := flatOrNested stod item meter "current"
    power := flatOrNested stod item meter "power"
    energy := flatOrNested stod item meter "energy"
    relayStates := if scan.hasRelay then scan.relayStates
      else BitVec.ofInt 16 (getInt item "relayStates"
        (getInt item "states" (getInt relay "relayStates" 0)))
    channelCount := if type = .relay then relayChannelCount item scan else 16
    kernel := getString item "kernel" (getString sys "kernel" "")
    arch := getString item "arch" (getString sys "arch" "")
    os := getString item "os" (getString sys "os" "")
    screenWidth := getInt item "screenWidth" (getInt sys "screenWidth" 0)
    screenHeight := getInt item "screenHeight" (getInt sys "screenHeight" 0)
    cpuUsage := getDouble stod item "cpuUsage" (getDouble stod sys "cpuUsage" 0)
    memoryUsage := getDouble stod item "memoryUsage" (getDouble stod sys "memoryUsage" 0) }

def parseSite (root : Json) : SiteContext :=
  let site := nestedObject root "site"
  { factoryId := getString site "factoryId" ""
    factoryName := getString site "factoryName" ""
    areaId := getString site "areaId" ""
    areaName := getString site "areaName" ""
    gatewayId := getString site "gatewayId" ""
    gatewayName := getString site "gatewayName" ""
    portId := getString site "portId" ""
    portName := getString site "portName" "" }

def packTimestamp (nowMs : Int) (root : Json) : Int :=
  let own := getJsonInt64Any root ["timestampMs", "timestamp"] 0
  if own ≤ 0 then
    let legacySeconds := getJsonInt64 root "time" 0
    if 0 < legacySeconds then legacySeconds * 1000 else nowMs
  else own

/-- The offset and the wording of a syntax error are rapidjson's. -/
def parseJson (pc : JsonCodec) (nowMs : Int) (payload : String) : Except String TelemetryPack :=
  match pc.parse payload with
  | none => .error "json parse error"
  | some (.obj members) =>
      let root := Json.obj members
      let type := getString root "type" ""
      if type ≠ "telemetry_pack" then .error ("unsupported type: " ++ type)
      else
        match memberArray root "devices" with
        | none => .error "devices is missing or not array"
        | some items => .ok
            { version := getJsonIntAny root ["version", "ver"] 1 % 2 ^ 32
              sequence := getJsonIntAny root ["seq", "sequence"] 0 % 2 ^ 32
              timestampMs := packTimestamp nowMs root
              sourceId := getString root "sourceId" ""
              targetId := getString root "targetId" ""
              site := parseSite root
              devices := (items.filter Json.isObj).map (parseDevice stod) }
  | some _ => .error "root is not object"

theorem parseJson_of_devices {pc : JsonCodec} {payload : String} {root : Json}
    {items : List Json} (nowMs : Int) (parsed : pc.parse payload = some root)
    (isObj : root.isObj = true) (type : getString root "type" "" = "telemetry_pack")
    (devices : memberArray root "devices" = some items) :
    exists pack, parseJson stod pc nowMs payload = .ok pack ∧
      pack.devices = (items.filter Json.isObj).map (parseDevice stod) := by
  rcases Json.isObj_iff.mp isObj with ⟨members, rfl⟩
  unfold parseJson
  rw [parsed]
  simp only [type, devices]
  exact ⟨_, rfl, rfl⟩

end Parsing

/-! ## Points -/

inductive PointValueType where
  | number
  | text
  | boolean
deriving DecidableEq, Repr

/-- A point; an infinite number has no value. -/
structure TelemetryPoint where
  timestampMs : Int
  site : SiteContext
  deviceId : Int
  deviceName : String
  deviceType : String
  pointId : String
  pointKey : String
  pointName : String
  unit : String
  valueType : PointValueType
  numberValue : Option Rat
  textValue : String
  valid : Bool
  errorMessage : String
deriving DecidableEq

def deviceTypeToString : DeviceType -> String
  | .sensorTh => "sensor_th"
  | .relay => "relay"
  | .electricMeter => "electric_meter"
  | .sysInfo => "sysinfo"
  | .unknown => "unknown"

def buildPointId (pack : TelemetryPack) (device : DeviceData) (pointKey : String) : String :=
  pack.site.factoryId ++ "." ++ pack.site.areaId ++ "." ++ pack.site.gatewayId ++ "." ++
    pack.site.portId ++ "." ++ toString device.deviceId ++ "." ++ pointKey

/-- `makeBasePoint` with the members that each function adds. -/
def makePoint (pack : TelemetryPack) (device : DeviceData) (pointKey pointName unit : String)
    (valueType : PointValueType) (numberValue : Option Rat) (textValue : String) :
    TelemetryPoint where
  timestampMs := pack.timestampMs
  site := pack.site
  deviceId := device.deviceId
  deviceName := device.deviceName
  deviceType := deviceTypeToString device.type
  pointId := buildPointId pack device pointKey
  pointKey := pointKey
  pointName := pointName
  unit := unit
  valueType := valueType
  numberValue := numberValue
  textValue := textValue
  valid := device.valid
  errorMessage := device.errorMessage

def floatPoint (pack : TelemetryPack) (device : DeviceData) (pointKey pointName unit : String)
    (value : CppFloat) : TelemetryPoint :=
  makePoint pack device pointKey pointName unit .number (value.map Subtype.val) ""

def numberPoint (pack : TelemetryPack) (device : DeviceData) (pointKey pointName unit : String)
    (value : Rat) : TelemetryPoint :=
  makePoint pack device pointKey pointName unit .number (some value) ""

def textPoint (pack : TelemetryPack) (device : DeviceData) (pointKey pointName : String)
    (value : String) : TelemetryPoint :=
  makePoint pack device pointKey pointName "" .text (some 0) value

def temperatureHumidityPoints (pack : TelemetryPack) (device : DeviceData) : List TelemetryPoint :=
  [floatPoint pack device "temperature" "Temperature" "C" device.temperature,
    floatPoint pack device "humidity" "Humidity" "%" device.humidity]

def electricMeterPoints (pack : TelemetryPack) (device : DeviceData) : List TelemetryPoint :=
  [floatPoint pack device "voltage" "Voltage" "V" device.voltage,
    floatPoint pack device "current" "Current" "A" device.current,
    floatPoint pack device "power" "Power" "W" device.power,
    floatPoint pack device "energy" "Energy" "kWh" device.energy]

def relayKey (channel : Nat) : String :=
  "relay_" ++ toString channel

theorem relayKey_injective : Function.Injective relayKey := by
  intro first second same
  have suffix := (String.append_right_inj "relay_").mp same
  have digits := congrArg (fun text => Nat.ofDigitChars 10 text.toList 0) suffix
  simpa using digits

/-- The point of the channel with this index, counted from zero. -/
def relayPoint (pack : TelemetryPack) (device : DeviceData) (index : Nat) : TelemetryPoint :=
  let isOn := decide (index < 16) && device.relayStates.getLsbD index
  makePoint pack device (relayKey (index + 1)) ("Relay " ++ toString (index + 1)) "" .boolean
    (some (if isOn then 1 else 0)) (if isOn then "on" else "off")

def relayPoints (pack : TelemetryPack) (device : DeviceData) : List TelemetryPoint :=
  let count := if device.channelCount ≤ 0 then 16 else min device.channelCount 64
  (List.range count.toNat).map (relayPoint pack device)

def sysInfoPoints (pack : TelemetryPack) (device : DeviceData) : List TelemetryPoint :=
  [textPoint pack device "kernel" "Kernel Version" device.kernel,
    textPoint pack device "arch" "Architecture" device.arch,
    textPoint pack device "os" "Operating System" device.os,
    numberPoint pack device "screen_width" "Screen Width" "px" device.screenWidth,
    numberPoint pack device "screen_height" "Screen Height" "px" device.screenHeight,
    numberPoint pack device "cpu_usage" "CPU Usage" "%" device.cpuUsage,
    numberPoint pack device "memory_usage" "Memory Usage" "%" device.memoryUsage]

def unknownDevicePoint (pack : TelemetryPack) (device : DeviceData) : TelemetryPoint :=
  let text := if device.errorMessage = "" then "unknown_device_type" else device.errorMessage
  { textPoint pack device "unknown_status" "Unknown Device Status" text with
    valid := false
    errorMessage := text }

def devicePoints (pack : TelemetryPack) (device : DeviceData) : List TelemetryPoint :=
  match device.type with
  | .sensorTh => temperatureHumidityPoints pack device
  | .electricMeter => electricMeterPoints pack device
  | .relay => relayPoints pack device
  | .sysInfo => sysInfoPoints pack device
  | .unknown => [unknownDevicePoint pack device]

def toTelemetryPoints (pack : TelemetryPack) : List TelemetryPoint :=
  pack.devices.flatMap (devicePoints pack)

/-- A point names its device, and its identifier is built from its key. -/
theorem of_mem_devicePoints {pack : TelemetryPack} {device : DeviceData} {point : TelemetryPoint}
    (inside : point ∈ devicePoints pack device) :
    point.site = pack.site ∧ point.deviceId = device.deviceId ∧
      point.pointId = buildPointId pack device point.pointKey := by
  unfold devicePoints at inside
  split at inside
  · simp only [temperatureHumidityPoints, List.mem_cons, List.not_mem_nil, or_false] at inside
    rcases inside with rfl | rfl <;> exact ⟨rfl, rfl, rfl⟩
  · simp only [electricMeterPoints, List.mem_cons, List.not_mem_nil, or_false] at inside
    rcases inside with rfl | rfl | rfl | rfl <;> exact ⟨rfl, rfl, rfl⟩
  · rcases List.mem_map.mp inside with ⟨index, -, rfl⟩
    exact ⟨rfl, rfl, rfl⟩
  · simp only [sysInfoPoints, List.mem_cons, List.not_mem_nil, or_false] at inside
    rcases inside with rfl | rfl | rfl | rfl | rfl | rfl | rfl <;> exact ⟨rfl, rfl, rfl⟩
  · rw [List.mem_singleton] at inside
    rw [inside]
    exact ⟨rfl, rfl, rfl⟩

end Pc
end Imx6Gateway
