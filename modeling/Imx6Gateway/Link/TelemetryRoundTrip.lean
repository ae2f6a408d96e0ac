import Imx6Gateway.Board.Telemetry
import Imx6Gateway.Link.Exchange
import Imx6Gateway.Pc.TelemetryPack

namespace Imx6Gateway
namespace Link

open Library Board

/-!
# Telemetry round trip

The board writes a pack and Pc_data unfolds it into points.  A reading is
compared by what it measures: the device, its validity, the name of the value
and the value.  Sensors, meters and system information come back whole.  Of a
relay the parser believes the list of points, where the board writes only the
first channel.
-/

/-- A measured value; a number that is not finite has none. -/
inductive Measurement where
  | number (value : Option Rat)
  | text (value : String)
  | state (on : Bool)
deriving DecidableEq

structure Measured where
  deviceId : Int
  deviceType : String
  valid : Bool
  pointKey : String
  value : Measurement
deriving DecidableEq

/-- What the board holds of a reading, under the names of the points. -/
def readings : DeviceReading -> List (String × Measurement)
  | .unknown => []
  | .sensorTh temperature humidity =>
      [("temperature", .number temperature.1), ("humidity", .number humidity.1)]
  | .relay relayStates channelCount =>
      (List.range (channelCountOf channelCount).toInt.toNat).map fun index =>
        (Pc.relayKey (index + 1), .state (relayStates.getLsbD index))
  | .electricMeter voltage current power energy =>
      [("voltage", .number voltage.1), ("current", .number current.1), ("power", .number power.1),
        ("energy", .number energy.1)]
  | .sysinfo kernel arch os screenW screenH cpuUsage memoryUsage =>
      [("kernel", .text kernel), ("arch", .text arch), ("os", .text os),
        ("screen_width", .number (some screenW.toInt)),
        ("screen_height", .number (some screenH.toInt)),
        ("cpu_usage", .number cpuUsage.1), ("memory_usage", .number memoryUsage.1)]

def measured (dev : DeviceData) : List Measured :=
  (readings dev.reading).map fun reading =>
    ⟨dev.deviceId.toInt, deviceTypeToStr dev.reading, dev.valid, reading.1, reading.2⟩

/-- What a point of Pc_data carries. -/
def carried (point : Pc.TelemetryPoint) : Measured where
  deviceId := point.deviceId
  deviceType := point.deviceType
  valid := point.valid
  pointKey := point.pointKey
  value := match point.valueType with
    | .number => .number point.numberValue
    | .text => .text point.textValue
    | .boolean => .state (point.numberValue = some 1)

/-- A device of known type, with at most sixteen channels. -/
def Known : DeviceReading -> Prop
  | .unknown => False
  | .relay _ channelCount => channelCount.toInt ≤ 16
  | _ => True

/-- Parsing the text and unfolding it gives every value of every device. -/
def RoundTrip (stod : String -> Option Rat) (pc : JsonCodec) (pcNow : Int) (pack : TelemetryPack)
    (text : String) : Prop :=
  exists parsed, Pc.parseJson stod pc pcNow text = .ok parsed ∧
    forall dev, dev ∈ pack.devices -> forall value, value ∈ measured dev ->
      value ∈ (Pc.toTelemetryPoints parsed).map carried

/-- What the parser keeps of a reading: the other channels of a relay are off. -/
def keptReading : DeviceReading -> DeviceReading
  | .relay relayStates channelCount => .relay (relayStates &&& 1) channelCount
  | other => other

/-- A device without a positive identifier is not valid for the parser. -/
def kept (dev : DeviceData) : DeviceData :=
  { dev with
    valid := dev.valid && decide (0 < dev.deviceId.toInt)
    reading := keptReading dev.reading }

section Parsing

variable (stod : String -> Option Rat) (nowMs : Int64) (pack : Pc.TelemetryPack)

/-- The keys in front of the reading. -/
def identityKeys : List String :=
  ["deviceId", "deviceName", "deviceType", "timestampMs", "valid", "errorMessage", "id", "type"]

theorem lookup_deviceId (dev : DeviceData) :
    (packDeviceJson nowMs dev).lookup "deviceId" = some (.int dev.deviceId.toInt) := rfl

theorem lookup_deviceType (dev : DeviceData) :
    (packDeviceJson nowMs dev).lookup "deviceType" =
      some (.str (deviceTypeToStr dev.reading)) := rfl

theorem lookup_valid (dev : DeviceData) :
    (packDeviceJson nowMs dev).lookup "valid" = some (.bool dev.valid) := rfl

theorem lookup_reading {dev : DeviceData} {reading : DeviceReading} (shape : dev.reading = reading)
    (key : String) (own : key ∉ identityKeys) :
    (packDeviceJson nowMs dev).lookup key = (readingMembers reading ++
      Json.memberIf (devicePoints reading ≠ []) "points"
        (.arr (devicePoints reading))).lookup key := by
  subst shape
  simp only [identityKeys, List.mem_cons, List.not_mem_nil, or_false, not_or] at own
  rw [packDeviceJson, Json.lookup_obj, List.lookup_append, Option.or_eq_right_of_none]
  simp [List.lookup_eq_none_iff, own]

/-- The type Pc_data gives to a reading. -/
def typeOf : DeviceReading -> Pc.DeviceType
  | .sensorTh .. => .sensorTh
  | .relay .. => .relay
  | .electricMeter .. => .electricMeter
  | .sysinfo .. => .sysInfo
  | .unknown => .unknown

theorem deviceTypeToString_typeOf (reading : DeviceReading) :
    Pc.deviceTypeToString (typeOf reading) = deviceTypeToStr reading := by
  cases reading <;> rfl

theorem parseDeviceType_str (reading : DeviceReading) :
    Pc.parseDeviceType (deviceTypeToStr reading) = typeOf reading := by
  cases reading <;> rfl

theorem toInt_device (value : Int32) : Pc.toInt value.toInt = value.toInt :=
  Pc.toInt_of_range value.le_toInt value.toInt_lt

theorem parseDevice_deviceId (dev : DeviceData) :
    (Pc.parseDevice stod (packDeviceJson nowMs dev)).deviceId = dev.deviceId.toInt := by
  have own := Pc.getInt_of_lookup (Pc.getInt (packDeviceJson nowMs dev) "slave_id"
    (Pc.getInt (packDeviceJson nowMs dev) "slaveAddress"
      (Pc.getInt (packDeviceJson nowMs dev) "id" 0))) (lookup_deviceId nowMs dev)
  rw [toInt_device] at own
  exact own

theorem deviceTypeText_pack (dev : DeviceData) :
    Pc.deviceTypeText (packDeviceJson nowMs dev) = deviceTypeToStr dev.reading := by
  have named : deviceTypeToStr dev.reading ≠ "" := by
    cases dev.reading <;> simp [deviceTypeToStr]
  rw [Pc.deviceTypeText, Pc.getJsonStringAny,
    Pc.getJsonString_of_lookup (lookup_deviceType nowMs dev), if_pos named, if_neg named]

theorem parseDevice_type (dev : DeviceData) :
    (Pc.parseDevice stod (packDeviceJson nowMs dev)).type = typeOf dev.reading := by
  rw [← parseDeviceType_str, ← deviceTypeText_pack nowMs dev]
  rfl

theorem scanPoints_pack (dev : DeviceData) :
    Pc.scanPoints stod (packDeviceJson nowMs dev) =
      (devicePoints dev.reading).foldl (Pc.scanPoint stod) Pc.PointScan.start := by
  have items : Pc.memberArray (packDeviceJson nowMs dev) "points" =
      if devicePoints dev.reading = [] then none else some (devicePoints dev.reading) := by
    rw [Pc.memberArray, lookup_reading nowMs rfl "points" (by decide)]
    cases dev.reading <;> rfl
  rw [Pc.scanPoints, items]
  split
  · rename_i none
    rw [none]
    rfl
  · rfl

/-- What the list of points tells about a reading. -/
def scanOf : DeviceReading -> Pc.PointScan
  | .sensorTh temperature humidity =>
      ⟨["temperature", "humidity"], some (some temperature), some (some humidity), 0, false, 0⟩
  | .relay relayStates _ => ⟨["relay.ch1"], none, none, relayStates &&& 1, true, 1⟩
  | _ => Pc.PointScan.start

theorem pointNumber_numberPoint (pointKey pointName unit : String) (value : Single) :
    Pc.pointNumber stod (numberPoint pointKey pointName unit value) = some value :=
  Pc.getFloat_of_lookup stod _ rfl

theorem firstChannel_and (relayStates : BitVec 16) :
    (if relayStates.getLsbD 0 = true then 0#16 ||| 1#16 <<< 0 else 0#16) = relayStates &&& 1 := by
  ext index inside
  rw [BitVec.getElem_and]
  by_cases first : index = 0
  · subst first
    cases on : relayStates.getLsbD 0 <;> simp [← BitVec.getLsbD_eq_getElem, on]
  · split <;> simp [BitVec.getElem_one, first]

theorem scanPoints_eq (dev : DeviceData) :
    Pc.scanPoints stod (packDeviceJson nowMs dev) = scanOf dev.reading := by
  rw [scanPoints_pack]
  cases dev.reading with
  | sensorTh temperature humidity =>
      have first : Pc.scanPoint stod Pc.PointScan.start
          (numberPoint "temperature" "温度" "℃" temperature) =
            ⟨["temperature"], some (some temperature), none, 0, false, 0⟩ := by
        rw [← pointNumber_numberPoint stod "temperature" "温度" "℃" temperature]
        rfl
      have second : Pc.scanPoint stod ⟨["temperature"], some (some temperature), none, 0, false, 0⟩
          (numberPoint "humidity" "湿度" "%" humidity) =
            scanOf (.sensorTh temperature humidity) := by
        rw [scanOf, ← pointNumber_numberPoint stod "humidity" "湿度" "%" humidity]
        rfl
      rw [devicePoints, List.foldl, first, List.foldl, second, List.foldl]
  | relay relayStates channelCount =>
      have key : Pc.isRelayKey "relay.ch1" = true := by decide +kernel
      have channel : Pc.relayChannelIndex "relay.ch1" = 1 := by decide +kernel
      rw [devicePoints, List.foldl, Pc.scanPoint_relay stod _ rfl rfl key, channel, List.foldl,
        scanOf, ← firstChannel_and]
      cases on : relayStates.getLsbD 0 <;> rfl
  | electricMeter | sysinfo | unknown => rfl

theorem valueChecks_scanOf (item : Json) (reading : DeviceReading) (checked : Bool × String) :
    Pc.valueChecks item (scanOf reading) (typeOf reading) checked = checked := by
  cases reading <;> simp [Pc.valueChecks, scanOf, typeOf, Pc.PointScan.start]

theorem parseDevice_valid {dev : DeviceData} (known : Known dev.reading) :
    (Pc.parseDevice stod (packDeviceJson nowMs dev)).valid = (kept dev).valid := by
  have typed : typeOf dev.reading ≠ .unknown := by
    intro unknown
    cases reading : dev.reading <;> rw [reading] at known unknown <;> cases unknown
    exact known
  have checks : (Pc.parseDevice stod (packDeviceJson nowMs dev)).valid =
      (Pc.valueChecks (packDeviceJson nowMs dev) (Pc.scanPoints stod (packDeviceJson nowMs dev))
        (Pc.parseDevice stod (packDeviceJson nowMs dev)).type
        (Pc.identityChecks (Pc.parseDevice stod (packDeviceJson nowMs dev)).deviceId
          (Pc.parseDevice stod (packDeviceJson nowMs dev)).type
          (Pc.getBool (packDeviceJson nowMs dev) "valid" true)
          (Pc.getString (packDeviceJson nowMs dev) "errorMessage" ""))).1 := rfl
  rw [checks, scanPoints_eq, parseDevice_type, valueChecks_scanOf, parseDevice_deviceId,
    Pc.getBool_of_lookup true (lookup_valid nowMs dev), Pc.identityChecks, if_neg typed, kept]
  split
  · rename_i noId
    simp [Int.not_lt.mpr noId]
  · rename_i someId
    simp [Int.not_le.mp someId]

/-! ## The points of a device -/

/-- A value of the device as it arrives. -/
def arrived (dev : DeviceData) (pointKey : String) (value : Measurement) : Measured :=
  ⟨dev.deviceId.toInt, deviceTypeToStr dev.reading, (kept dev).valid, pointKey, value⟩

theorem measured_kept (dev : DeviceData) :
    measured (kept dev) =
      (readings (keptReading dev.reading)).map fun reading => arrived dev reading.1 reading.2 := by
  have type : deviceTypeToStr (keptReading dev.reading) = deviceTypeToStr dev.reading := by
    cases dev.reading <;> rfl
  simp only [measured, arrived, kept, type]

theorem carried_makePoint {dev : DeviceData} (known : Known dev.reading)
    (pointKey pointName unit : String) (valueType : Pc.PointValueType) (numberValue : Option Rat)
    (textValue : String) :
    carried (Pc.makePoint pack (Pc.parseDevice stod (packDeviceJson nowMs dev)) pointKey pointName
      unit valueType numberValue textValue) = arrived dev pointKey (match valueType with
        | .number => .number numberValue
        | .text => .text textValue
        | .boolean => .state (numberValue = some 1)) := by
  simp only [carried, Pc.makePoint, arrived, parseDevice_deviceId, parseDevice_type,
    deviceTypeToString_typeOf, parseDevice_valid stod nowMs known]

theorem carried_sensorTh {dev : DeviceData} {temperature humidity : Single}
    (shape : dev.reading = .sensorTh temperature humidity) :
    (Pc.temperatureHumidityPoints pack (Pc.parseDevice stod (packDeviceJson nowMs dev))).map
      carried = measured (kept dev) := by
  have known : Known dev.reading := by rw [shape]; trivial
  have scan := (scanPoints_eq stod nowMs dev).trans (congrArg scanOf shape)
  have first : (Pc.parseDevice stod (packDeviceJson nowMs dev)).temperature = some temperature := by
    change (Pc.scanPoints stod (packDeviceJson nowMs dev)).temperature.getD _ = some temperature
    rw [scan]
    rfl
  have second : (Pc.parseDevice stod (packDeviceJson nowMs dev)).humidity = some humidity := by
    change (Pc.scanPoints stod (packDeviceJson nowMs dev)).humidity.getD _ = some humidity
    rw [scan]
    rfl
  rw [measured_kept, shape]
  simp only [Pc.temperatureHumidityPoints, Pc.floatPoint, List.map, first, second,
    carried_makePoint stod nowMs pack known, keptReading, readings, Option.map]

theorem carried_electricMeter {dev : DeviceData} {voltage current power energy : Single}
    (shape : dev.reading = .electricMeter voltage current power energy) :
    (Pc.electricMeterPoints pack (Pc.parseDevice stod (packDeviceJson nowMs dev))).map carried =
      measured (kept dev) := by
  have known : Known dev.reading := by rw [shape]; trivial
  have members := lookup_reading nowMs shape
  have first : (Pc.parseDevice stod (packDeviceJson nowMs dev)).voltage = some voltage := by
    rw [Pc.parseDevice, Pc.flatOrNested_of_lookup stod _ ((members "voltage" (by decide)).trans rfl)]
  have second : (Pc.parseDevice stod (packDeviceJson nowMs dev)).current = some current := by
    rw [Pc.parseDevice, Pc.flatOrNested_of_lookup stod _ ((members "current" (by decide)).trans rfl)]
  have third : (Pc.parseDevice stod (packDeviceJson nowMs dev)).power = some power := by
    rw [Pc.parseDevice, Pc.flatOrNested_of_lookup stod _ ((members "power" (by decide)).trans rfl)]
  have fourth : (Pc.parseDevice stod (packDeviceJson nowMs dev)).energy = some energy := by
    rw [Pc.parseDevice, Pc.flatOrNested_of_lookup stod _ ((members "energy" (by decide)).trans rfl)]
  rw [measured_kept, shape]
  simp only [Pc.electricMeterPoints, Pc.floatPoint, List.map, first, second, third, fourth,
    carried_makePoint stod nowMs pack known, keptReading, readings, Option.map]

theorem carried_sysinfo {dev : DeviceData} {kernel arch os : String} {screenW screenH : Int32}
    {cpuUsage memoryUsage : Double}
    (shape : dev.reading = .sysinfo kernel arch os screenW screenH cpuUsage memoryUsage) :
    (Pc.sysInfoPoints pack (Pc.parseDevice stod (packDeviceJson nowMs dev))).map carried =
      measured (kept dev) := by
  have known : Known dev.reading := by rw [shape]; trivial
  have members := lookup_reading nowMs shape
  have first : (Pc.parseDevice stod (packDeviceJson nowMs dev)).kernel = kernel :=
    Pc.getString_of_lookup _ (members "kernel" (by decide))
  have second : (Pc.parseDevice stod (packDeviceJson nowMs dev)).arch = arch :=
    Pc.getString_of_lookup _ (members "arch" (by decide))
  have third : (Pc.parseDevice stod (packDeviceJson nowMs dev)).os = os :=
    Pc.getString_of_lookup _ (members "os" (by decide))
  have fourth : (Pc.parseDevice stod (packDeviceJson nowMs dev)).screenWidth = screenW.toInt :=
    (Pc.getInt_of_lookup _ (members "screenWidth" (by decide))).trans (toInt_device screenW)
  have fifth : (Pc.parseDevice stod (packDeviceJson nowMs dev)).screenHeight = screenH.toInt :=
    (Pc.getInt_of_lookup _ (members "screenHeight" (by decide))).trans (toInt_device screenH)
  have sixth : (Pc.parseDevice stod (packDeviceJson nowMs dev)).cpuUsage = cpuUsage.1 :=
    Pc.getDouble_of_lookup stod _ ((members "cpuUsage" (by decide)).trans rfl)
  have seventh : (Pc.parseDevice stod (packDeviceJson nowMs dev)).memoryUsage = memoryUsage.1 :=
    Pc.getDouble_of_lookup stod _ ((members "memoryUsage" (by decide)).trans rfl)
  rw [measured_kept, shape]
  simp only [Pc.sysInfoPoints, Pc.textPoint, Pc.numberPoint, List.map, first, second, third,
    fourth, fifth, sixth, seventh, carried_makePoint stod nowMs pack known, keptReading, readings]

theorem channelCountOf_range {channelCount : Int32} (few : channelCount.toInt ≤ 16) :
    1 ≤ (channelCountOf channelCount).toInt ∧ (channelCountOf channelCount).toInt ≤ 16 := by
  unfold channelCountOf
  split
  · omega
  · decide

theorem firstValidRelayChannelCount_own {item : Json} {count : Int}
    (own : Pc.getInt item "channelCount" 0 = count) (low : 1 ≤ count) (high : count ≤ 64) :
    Pc.firstValidRelayChannelCount item = count := by
  have valid : Pc.validRelayChannelCount count = count := if_pos ⟨low, high⟩
  have positive : 0 < count := by omega
  rw [Pc.firstValidRelayChannelCount, own, valid, if_pos positive]

/-- Of the mask only the first channel is read. -/
theorem parseDevice_relayStates {dev : DeviceData} {relayStates : BitVec 16} {channelCount : Int32}
    (shape : dev.reading = .relay relayStates channelCount) :
    (Pc.parseDevice stod (packDeviceJson nowMs dev)).relayStates = relayStates &&& 1 := by
  have scan := (scanPoints_eq stod nowMs dev).trans (congrArg scanOf shape)
  change (if (Pc.scanPoints stod (packDeviceJson nowMs dev)).hasRelay then
    (Pc.scanPoints stod (packDeviceJson nowMs dev)).relayStates else _) = relayStates &&& 1
  rw [scan]
  rfl

section Relay

variable {dev : DeviceData} {relayStates : BitVec 16} {channelCount : Int32}
  (shape : dev.reading = .relay relayStates channelCount) (few : channelCount.toInt ≤ 16)
include shape few

theorem parseDevice_channelCount :
    (Pc.parseDevice stod (packDeviceJson nowMs dev)).channelCount =
      (channelCountOf channelCount).toInt := by
  rcases channelCountOf_range few with ⟨low, high⟩
  have own : Pc.getInt (packDeviceJson nowMs dev) "channelCount" 0 =
      (channelCountOf channelCount).toInt :=
    (Pc.getInt_of_lookup 0
      ((lookup_reading nowMs shape "channelCount" (by decide)).trans rfl)).trans (toInt_device _)
  have declared := firstValidRelayChannelCount_own own low (by omega)
  have type := (parseDevice_type stod nowMs dev).trans (congrArg typeOf shape)
  have scan := (scanPoints_eq stod nowMs dev).trans (congrArg scanOf shape)
  have some : 0 < (channelCountOf channelCount).toInt := by omega
  have enough : ¬ (channelCountOf channelCount).toInt < 1 := by omega
  change (if (Pc.parseDevice stod (packDeviceJson nowMs dev)).type = .relay then
    Pc.relayChannelCount (packDeviceJson nowMs dev)
      (Pc.scanPoints stod (packDeviceJson nowMs dev)) else 16) = _
  rw [type, scan, typeOf, if_pos rfl, Pc.relayChannelCount, Pc.declaredRelayChannelCount, declared,
    if_pos some, if_pos some, scanOf, if_neg enough]

theorem carried_relay :
    (Pc.relayPoints pack (Pc.parseDevice stod (packDeviceJson nowMs dev))).map carried =
      measured (kept dev) := by
  have known : Known dev.reading := by rw [shape]; exact few
  have count := parseDevice_channelCount stod nowMs shape few
  have states := parseDevice_relayStates stod nowMs shape
  rcases channelCountOf_range few with ⟨low, high⟩
  have some : ¬ (channelCountOf channelCount).toInt ≤ 0 := by omega
  have fits : min (channelCountOf channelCount).toInt 64 = (channelCountOf channelCount).toInt :=
    min_eq_left (by omega)
  rw [measured_kept, shape, Pc.relayPoints, count, if_neg some, fits]
  simp only [keptReading, readings, List.map_map]
  apply List.map_congr_left
  intro index inside
  have small : index < 16 := by
    have bound := List.mem_range.mp inside
    omega
  simp only [Function.comp_apply, Pc.relayPoint, carried_makePoint stod nowMs pack known, states,
    small]
  cases on : (relayStates &&& 1).getLsbD index <;> simp

end Relay

theorem carried_points {dev : DeviceData} (known : Known dev.reading) :
    (Pc.devicePoints pack (Pc.parseDevice stod (packDeviceJson nowMs dev))).map carried =
      measured (kept dev) := by
  rw [Pc.devicePoints, parseDevice_type]
  cases shape : dev.reading with
  | unknown =>
      rw [shape] at known
      exact known.elim
  | sensorTh temperature humidity => exact carried_sensorTh stod nowMs pack shape
  | relay relayStates channelCount =>
      rw [shape] at known
      exact carried_relay stod nowMs pack shape known
  | electricMeter voltage current power energy => exact carried_electricMeter stod nowMs pack shape
  | sysinfo kernel arch os screenW screenH cpuUsage memoryUsage =>
      exact carried_sysinfo stod nowMs pack shape

/-! ## The pack -/

theorem wire_numberPoint (depth : Nat) (pointKey pointName unit : String) (value : Single) :
    (numberPoint pointKey pointName unit value).Wire (depth + 1) := by
  simp [numberPoint, Json.wire_obj_succ]

theorem wire_packDeviceJson (depth : Nat) (dev : DeviceData) :
    (packDeviceJson nowMs dev).Wire (depth + 3) := by
  have earliest := nowMs.le_toInt
  have latest := nowMs.toInt_lt
  cases shape : dev.reading with
  | relay relayStates channelCount =>
      have states := relayStates.isLt
      simp [packDeviceJson, shape, readingMembers, devicePoints, Json.wire_obj_succ,
        Json.wire_arr_succ, Json.memberIf]
      omega
  | unknown | sensorTh | electricMeter | sysinfo =>
      simp [packDeviceJson, shape, readingMembers, devicePoints, Json.wire_obj_succ,
        Json.wire_arr_succ, wire_numberPoint, Json.memberIf]
      omega

theorem wire_telemetryPackJson (pack : TelemetryPack) :
    (telemetryPackJson nowMs pack).Wire Json.maxDepth := by
  have sequence := pack.seq.toNat_lt
  have earliest := pack.timestampMs.le_toInt
  have latest := pack.timestampMs.toInt_lt
  have earliestSecond := pack.timestamp.le_toInt
  have latestSecond := pack.timestamp.toInt_lt
  have count := pack.bounded
  have devices : forall dev, dev ∈ pack.devices -> (packDeviceJson nowMs dev).Wire 29 :=
    fun dev _ => wire_packDeviceJson nowMs 26 dev
  unfold maxDevicesPerPack at count
  unfold telemetryPackJson
  rw [Json.maxDepth, Json.wire_obj_succ]
  constructor
  · simp
  · simp [Json.wire_obj_succ, Json.wire_arr_succ, siteToJson]
    refine ⟨by omega, by omega, by omega, by omega, by omega, devices⟩

/-- Pc_data takes the devices of a pack that the board has written. -/
theorem parseJson_telemetryPack {pc : JsonCodec} (pcNow : Int) (pack : TelemetryPack)
    {text : String} (parsed : pc.parse text = some (telemetryPackJson nowMs pack)) :
    exists parsedPack, Pc.parseJson stod pc pcNow text = .ok parsedPack ∧
      parsedPack.devices =
        pack.devices.map fun dev => Pc.parseDevice stod (packDeviceJson nowMs dev) := by
  have objects : (pack.devices.map (packDeviceJson nowMs)).filter Json.isObj =
      pack.devices.map (packDeviceJson nowMs) := by
    rw [List.filter_eq_self]
    intro item inside
    rcases List.mem_map.mp inside with ⟨dev, -, rfl⟩
    rfl
  rcases Pc.parseJson_of_devices stod pcNow parsed rfl rfl rfl with ⟨parsedPack, result, devices⟩
  refine ⟨parsedPack, result, ?_⟩
  rw [devices, objects, List.map_map]
  rfl

theorem toTelemetryPoints_carried {parsedPack : Pc.TelemetryPack} {pack : TelemetryPack}
    (known : forall dev, dev ∈ pack.devices -> Known dev.reading)
    (devices : parsedPack.devices =
      pack.devices.map fun dev => Pc.parseDevice stod (packDeviceJson nowMs dev)) :
    (Pc.toTelemetryPoints parsedPack).map carried =
      pack.devices.flatMap fun dev => measured (kept dev) := by
  rw [Pc.toTelemetryPoints, devices, List.map_flatMap, List.flatMap_map]
  apply List.flatMap_congr
  intro dev inside
  exact carried_points stod nowMs parsedPack (known dev inside)

end Parsing

/-! ## What is lost -/

/-- The parser keeps everything of the device: a valid device has a positive
identifier, and of a relay at most the first channel is on. -/
def Whole (dev : DeviceData) : Prop :=
  (dev.valid = true -> 0 < dev.deviceId.toInt) ∧
    match dev.reading with
    | .relay relayStates channelCount =>
        forall index, 1 ≤ index -> index < (channelCountOf channelCount).toInt.toNat ->
          relayStates.getLsbD index = false
    | _ => True

theorem getLsbD_and_one (relayStates : BitVec 16) (index : Nat) :
    (relayStates &&& 1).getLsbD index = (relayStates.getLsbD index && decide (index = 0)) := by
  cases index <;> simp [BitVec.getLsbD_one]

theorem readings_kept {dev : DeviceData} (whole : Whole dev) :
    readings (keptReading dev.reading) = readings dev.reading := by
  rcases whole with ⟨-, channels⟩
  cases shape : dev.reading with
  | relay relayStates channelCount =>
      rw [shape] at channels
      simp only [keptReading, readings]
      apply List.map_congr_left
      intro index inside
      rw [getLsbD_and_one]
      by_cases first : index = 0
      · simp [first]
      · rw [channels index (Nat.one_le_iff_ne_zero.mpr first) (List.mem_range.mp inside)]
        rfl
  | unknown | sensorTh | electricMeter | sysinfo => rfl

theorem measured_kept_of_whole {dev : DeviceData} (whole : Whole dev) :
    measured (kept dev) = measured dev := by
  have valid : (kept dev).valid = dev.valid := by
    have positive := whole.1
    cases on : dev.valid <;> simp_all [kept]
  rw [measured_kept, readings_kept whole]
  simp only [measured, arrived, valid]

theorem measured_ne_nil {dev : DeviceData} (known : Known dev.reading) : measured dev ≠ [] := by
  cases shape : dev.reading with
  | unknown =>
      rw [shape] at known
      exact known.elim
  | relay relayStates channelCount =>
      rw [shape] at known
      have low := (channelCountOf_range known).1
      have some : (channelCountOf channelCount).toInt.toNat ≠ 0 := by omega
      simpa [measured, shape, readings] using some
  | sensorTh | electricMeter | sysinfo => simp [measured, shape, readings]

/-- A valid device keeps its validity only with a positive identifier. -/
theorem positive_of_arrived {dev source : DeviceData} {value : Measured}
    (expected : value ∈ measured dev) (found : value ∈ measured (kept source))
    (valid : dev.valid = true) : 0 < dev.deviceId.toInt := by
  rw [measured_kept] at found
  rcases List.mem_map.mp expected with ⟨reading, -, rfl⟩
  rcases List.mem_map.mp found with ⟨other, -, same⟩
  simp only [arrived, kept, Measured.mk.injEq, valid, Bool.and_eq_true, decide_eq_true_eq] at same
  omega

theorem mem_measured_channel (dev : DeviceData) {relayStates : BitVec 16} {channelCount : Int32}
    (shape : dev.reading = .relay relayStates channelCount) {index : Nat}
    (bound : index < (channelCountOf channelCount).toInt.toNat) :
    (⟨dev.deviceId.toInt, deviceTypeToStr dev.reading, dev.valid, Pc.relayKey (index + 1),
      .state (relayStates.getLsbD index)⟩ : Measured) ∈ measured dev := by
  rw [measured, shape, readings]
  apply List.mem_map.mpr
  exact ⟨_, List.mem_map.mpr ⟨index, List.mem_range.mpr bound, rfl⟩, rfl⟩

/-- No point says that a channel beyond the first one is on. -/
theorem channel_off_of_arrived {dev source : DeviceData} {relayStates : BitVec 16}
    {channelCount : Int32} (shape : dev.reading = .relay relayStates channelCount) {index : Nat}
    (beyond : 1 ≤ index)
    (found : (⟨dev.deviceId.toInt, deviceTypeToStr dev.reading, dev.valid,
      Pc.relayKey (index + 1), .state (relayStates.getLsbD index)⟩ : Measured) ∈
        measured (kept source)) :
    relayStates.getLsbD index = false := by
  rw [measured_kept] at found
  rcases List.mem_map.mp found with ⟨reading, inside, same⟩
  simp only [arrived, Measured.mk.injEq, shape] at same
  rcases same with ⟨-, type, -, key, state⟩
  cases other : source.reading with
  | relay otherStates otherCount =>
      rw [other, keptReading, readings] at inside
      rcases List.mem_map.mp inside with ⟨position, -, rfl⟩
      have same : position = index := Nat.succ.inj (Pc.relayKey_injective key)
      have off := getLsbD_and_one otherStates index
      rw [decide_eq_false (by omega), Bool.and_false] at off
      rw [same] at state
      exact (Measurement.state.inj state).symm.trans off
  | unknown | sensorTh | electricMeter | sysinfo =>
      rw [other] at type
      simp [deviceTypeToStr] at type

theorem parse_encoded (link : Exchange) {nowMs : Int64} {bufSize : Nat} {pack : TelemetryPack}
    {text : String} (encoded : telemetryPackToJson link.board nowMs bufSize pack = some text) :
    link.pc.parse text = some (telemetryPackJson nowMs pack) := by
  simp only [telemetryPackToJson] at encoded
  split at encoded
  · rw [← Option.some.inj encoded]
    exact link.pc_reads_line _ (wire_telemetryPackJson nowMs pack)
  · cases encoded

/-- Exactly the values that the parser keeps arrive. -/
theorem roundTrip_iff_kept (link : Exchange) (stod : String -> Option Rat) (nowMs : Int64)
    (bufSize : Nat) (pcNow : Int) {pack : TelemetryPack} {text : String}
    (known : forall dev, dev ∈ pack.devices -> Known dev.reading)
    (encoded : telemetryPackToJson link.board nowMs bufSize pack = some text) :
    RoundTrip stod link.pc pcNow pack text ↔
      forall dev, dev ∈ pack.devices -> forall value, value ∈ measured dev ->
        exists source, source ∈ pack.devices ∧ value ∈ measured (kept source) := by
  have parsed := parse_encoded link encoded
  rcases parseJson_telemetryPack stod nowMs pcNow pack parsed with ⟨parsedPack, result, devices⟩
  have points := toTelemetryPoints_carried stod nowMs known devices
  constructor
  · rintro ⟨sameParsed, sameResult, arrives⟩ dev inside value expected
    have same : sameParsed = parsedPack := Except.ok.inj (sameResult.symm.trans result)
    rw [same, points] at arrives
    exact List.mem_flatMap.mp (arrives dev inside value expected)
  · intro arrives
    refine ⟨parsedPack, result, ?_⟩
    intro dev inside value expected
    rw [points]
    exact List.mem_flatMap.mpr (arrives dev inside value expected)

/-- Every value of every device arrives exactly when the parser keeps every
device whole. -/
theorem telemetry_round_trip_iff (link : Exchange) (stod : String -> Option Rat) (nowMs : Int64)
    (bufSize : Nat) (pcNow : Int) (pack : TelemetryPack) {text : String}
    (known : forall dev, dev ∈ pack.devices -> Known dev.reading)
    (encoded : telemetryPackToJson link.board nowMs bufSize pack = some text) :
    RoundTrip stod link.pc pcNow pack text ↔ forall dev, dev ∈ pack.devices -> Whole dev := by
  rw [roundTrip_iff_kept link stod nowMs bufSize pcNow known encoded]
  constructor
  · intro arrives dev inside
    constructor
    · intro valid
      rcases List.exists_mem_of_ne_nil _ (measured_ne_nil (known dev inside)) with
        ⟨value, expected⟩
      rcases arrives dev inside value expected with ⟨source, -, found⟩
      exact positive_of_arrived expected found valid
    · split
      · rename_i relayStates channelCount shape
        intro index beyond bound
        have expected := mem_measured_channel dev shape bound
        rcases arrives dev inside _ expected with ⟨source, -, found⟩
        exact channel_off_of_arrived shape beyond found
      · trivial
  · intro whole dev inside value expected
    refine ⟨dev, inside, ?_⟩
    rw [measured_kept_of_whole (whole dev inside)]
    exact expected

/-- A pack of one relay with four channels. -/
def relayPack (relayStates : BitVec 16) : TelemetryPack where
  seq := 0
  timestamp := 0
  timestampMs := 0
  sourceId := ""
  targetId := ""
  site := ⟨"", "", "", "", "gateway_001", "", "port_001", ""⟩
  devices := [⟨3, "relay", true, "", .relay relayStates 4⟩]
  bounded := by simp [maxDevicesPerPack]

theorem relayPack_fits {relayStates : BitVec 16} (some : relayStates = 1 ∨ relayStates = 2) :
    textBytes (JsonC.jsonText.print (telemetryPackJson 0 (relayPack relayStates))) + 2 ≤ 4096 := by
  rcases some with rfl | rfl <;>
    simp [relayPack, telemetryPackJson, siteToJson, packDeviceJson, readingMembers, devicePoints,
      channelCountOf, defaultDeviceName, deviceTypeToStr, jsonInt, Json.memberIf, JsonC.jsonText,
      JsonText.codec, JsonText.print, JsonText.valueText, Json.maxDepth, JsonText.sequenceText,
      JsonText.memberText, JsonText.stringText, JsonText.escape, JsonText.intText,
      JsonText.natText, JsonText.signed, textBytes, byteLength] <;>
    decide +kernel

theorem relayPack_encoded {relayStates : BitVec 16} (some : relayStates = 1 ∨ relayStates = 2) :
    telemetryPackToJson JsonC.jsonText 0 4096 (relayPack relayStates) =
      Option.some (JsonC.jsonText.print (telemetryPackJson 0 (relayPack relayStates)) ++ "\n") := by
  rw [telemetryPackToJson]
  exact if_pos (relayPack_fits some)

theorem relayPack_known (relayStates : BitVec 16) :
    forall dev, dev ∈ (relayPack relayStates).devices -> Known dev.reading := by
  intro dev inside
  rw [List.mem_singleton.mp inside]
  change (4 : Int32).toInt ≤ 16
  decide

/-- A relay with only its first channel on arrives whole. -/
theorem telemetry_round_trip_first_channel :
    RoundTrip (fun _ => none) Exchange.jsonText.pc 0 (relayPack 1)
      (JsonC.jsonText.print (telemetryPackJson 0 (relayPack 1)) ++ "\n") := by
  apply (telemetry_round_trip_iff Exchange.jsonText (fun _ => none) 0 4096 0 (relayPack 1)
    (relayPack_known 1) (relayPack_encoded (Or.inl rfl))).mpr
  intro dev inside
  rw [List.mem_singleton.mp inside]
  refine ⟨by decide, ?_⟩
  intro index beyond bound
  have off : index ≠ 0 := by omega
  simp [BitVec.getLsbD_one, off]

/-- A relay with only its second channel on loses it. -/
theorem telemetry_round_trip_second_channel :
    telemetryPackToJson Exchange.jsonText.board 0 4096 (relayPack 2) =
        some (JsonC.jsonText.print (telemetryPackJson 0 (relayPack 2)) ++ "\n") ∧
      ¬ RoundTrip (fun _ => none) Exchange.jsonText.pc 0 (relayPack 2)
        (JsonC.jsonText.print (telemetryPackJson 0 (relayPack 2)) ++ "\n") := by
  have encoded := relayPack_encoded (Or.inr (rfl : (2 : BitVec 16) = 2))
  refine ⟨encoded, ?_⟩
  rw [roundTrip_iff_kept Exchange.jsonText (fun _ => none) 0 4096 0 (relayPack_known 2) encoded]
  intro arrives
  have expected := mem_measured_channel ⟨3, "relay", true, "", .relay 2 4⟩ rfl
    (show 1 < (channelCountOf 4).toInt.toNat by decide)
  rcases arrives _ (List.mem_singleton.mpr rfl) _ expected with ⟨source, -, found⟩
  have off := channel_off_of_arrived rfl (le_refl 1) found
  cases off

end Link
end Imx6Gateway
