import Imx6Gateway.Library.KeyedStore
import Imx6Gateway.Library.PlaceMarker
import Imx6Gateway.Ui.CommandResult

namespace Imx6Gateway
namespace Ui
namespace Realtime

open Library

/-!
# Devices as the user interface knows them

What `DataManager` reads out of the messages with the latest points and with
the devices.  Both readers drop rows without a factory, an area, a gateway, a
port or a device number, so the devices they return carry all five, and the
later checks for them never skip anything.  The values shown on the cards of a
device, which no function here reads, are left out.
-/

def kRealtimeFreshMs : Int := 30000

def kRealtimeOfflineMs : Int := 90000

def kRealtimeStaleToleranceMs : Int := 1000

structure DeviceNode where
  factoryId : String := ""
  factoryName : String := ""
  areaId : String := ""
  areaName : String := ""
  gatewayId : String := ""
  gatewayName : String := ""
  masterSlot : Int := 0
  masterName : String := ""
  port : String := ""
  baud : Int := 9600
  slaveAddr : Int := 0
  deviceId : Int := 0
  deviceName : String := ""
  deviceType : String := ""
  expectTelemetry : Bool := true
  status : String := ""
  statusReason : String := ""
  online : Bool := false
  lastUpdateTime : Int := 0
deriving DecidableEq, Inhabited

namespace DeviceNode

/-- The first three arguments are put in together, the others one by one. -/
def key (node : DeviceNode) : String :=
  PlaceMarker.arg
    (PlaceMarker.arg
      (node.factoryId ++ "/" ++ node.areaId ++ "/" ++ node.gatewayId ++ "/%4/%5") node.port)
    (toString node.deviceId)

abbrev Identified (node : DeviceNode) : Prop :=
  node.factoryId ≠ "" ∧ node.areaId ≠ "" ∧ node.gatewayId ≠ "" ∧ node.port ≠ "" ∧
    0 < node.deviceId

end DeviceNode

structure TelemetryPointData where
  pointId : String
  timestampMs : Int
  factoryId : String
  factoryName : String
  areaId : String
  areaName : String
  gatewayId : String
  gatewayName : String
  portId : String
  portName : String
  deviceId : Int
  deviceName : String
  deviceType : String
  pointKey : String
  pointName : String
  unit : String
  valueType : String
  numberValue : Rat
  textValue : String
  valid : Bool
  errorMessage : String
  receiveTimeMs : Int
  lastUpdateTime : Int
deriving DecidableEq

abbrev TelemetryPointData.Identified (point : TelemetryPointData) : Prop :=
  point.factoryId ≠ "" ∧ point.areaId ≠ "" ∧ point.gatewayId ≠ "" ∧ point.portId ≠ "" ∧
    0 < point.deviceId

structure RealtimeDeviceData where
  node : DeviceNode := {}
  points : List TelemetryPointData := []
  errorMessage : String := ""
  statusText : String := ""
  statusLevel : String := ""
  dataState : String := ""
  serviceOffline : Bool := false
  mock : Bool := false
  valid : Bool := false
  timestamp : Int := 0
deriving DecidableEq, Inhabited

/-- The records of `DeviceManager`. -/
abbrev Devices : Type := KeyedStore DeviceNode.key DeviceNode.Identified

/-- The records of `m_realtimeMap`. -/
abbrev RealtimeMap : Type :=
  KeyedStore (fun data : RealtimeDeviceData => data.node.key) fun data => data.node.Identified

/-! ## The latest points -/

/-- `toLongLong` of a text: spaces around, a sign, digits. -/
def longLongOfText (text : String) : Int :=
  let front := text.toList.dropWhile Char.isWhitespace
  let body := (front.reverse.dropWhile Char.isWhitespace).reverse
  let number (digits : List Char) : Int :=
    if digits ≠ [] ∧ digits.all Char.isDigit then Nat.ofDigitChars 10 digits 0 else 0
  let value := match body with
    | '-' :: digits => -number digits
    | '+' :: digits => number digits
    | digits => number digits
  if -2 ^ 63 ≤ value ∧ value < 2 ^ 63 then value else 0

/-- `toVariant().toLongLong()`. -/
def longLongOf : Option Json -> Int
  | some (.int number) => number
  | some (.real number) =>
      if 0 ≤ number then Pc.truncate (number + 1 / 2) else Pc.truncate (number - 1 / 2)
  | some (.bool true) => 1
  | some (.str text) => longLongOfText text
  | _ => 0

def parseTelemetryPoint (object : Json) : TelemetryPointData :=
  let timestampMs := longLongOf (object.lookup "timestampMs")
  let valid := boolOr (object.lookup "valid") true
  let errorMessage := textOr (object.lookup "errorMessage") ""
  let received := longLongOf (object.lookup "receiveTimeMs")
  let receiveTimeMs := if received ≤ 0 then timestampMs else received
  { pointId := textOr (object.lookup "pointId") ""
    timestampMs := timestampMs
    factoryId := textOr (object.lookup "factoryId") ""
    factoryName := textOr (object.lookup "factoryName") ""
    areaId := textOr (object.lookup "areaId") ""
    areaName := textOr (object.lookup "areaName") ""
    gatewayId := textOr (object.lookup "gatewayId") ""
    gatewayName := textOr (object.lookup "gatewayName") ""
    portId := textOr (object.lookup "portId") ""
    portName := textOr (object.lookup "portName") ""
    deviceId := intOr (object.lookup "deviceId") 0
    deviceName := textOr (object.lookup "deviceName") ""
    deviceType := normalizeDeviceType (textOr (object.lookup "deviceType") "")
    pointKey := textOr (object.lookup "pointKey") ""
    pointName := textOr (object.lookup "pointName") ""
    unit := textOr (object.lookup "unit") ""
    valueType := textOr (object.lookup "valueType") ""
    numberValue := doubleOr (object.lookup "numberValue") 0
    textValue := textOr (object.lookup "textValue") ""
    valid := valid
    errorMessage := if !valid && errorMessage = "" then "数据无效" else errorMessage
    receiveTimeMs := receiveTimeMs
    lastUpdateTime := receiveTimeMs }

/-- The points of one device, of which there is at least one. -/
structure PointGroup where
  first : TelemetryPointData
  more : List TelemetryPointData
  identified : first.Identified

def PointGroup.points (group : PointGroup) : List TelemetryPointData :=
  group.first :: group.more

def groupKey (point : TelemetryPointData) : String :=
  PlaceMarker.arg
    (point.factoryId ++ "/" ++ point.areaId ++ "/" ++ point.gatewayId ++ "/" ++ point.portId ++
      "/%5") (toString point.deviceId)

def appendPoint (grouped : Table String PointGroup) (point : TelemetryPointData) :
    Table String PointGroup :=
  if identified : point.Identified then
    match grouped.get (groupKey point) with
    | some group => grouped.put (groupKey point) { group with more := group.more ++ [point] }
    | none => grouped.put (groupKey point) ⟨point, [], identified⟩
  else grouped

def groupPointsByDevice (object : Json) : Table String PointGroup :=
  let points := (Pc.memberArray object "points").getD []
  ((points.filter Json.isObj).map parseTelemetryPoint).foldl appendPoint ∅

/-- An invalid record with one of the errors of a device that does not answer. -/
def reportsOffline (data : RealtimeDeviceData) : Bool :=
  !data.valid && (data.errorMessage = "device_offline" || data.errorMessage = "modbus_timeout" ||
    data.errorMessage = "timeout")

/-- The text of a limit that the value of a point exceeds. -/
def pointWarning (point : TelemetryPointData) : Option String :=
  if !point.valid || point.valueType = "text" then none
  else if point.pointKey = "temperature" ∧ 60 < point.numberValue then some "温度异常值"
  else if point.pointKey = "humidity" ∧ 85 < point.numberValue then some "湿度异常值"
  else if point.pointKey = "voltage" ∧ point.numberValue < 180 then some "低电压异常值"
  else if point.pointKey = "current" ∧ 20 < point.numberValue then some "电流异常值"
  else if point.pointKey = "power" ∧ 5000 < point.numberValue then some "功率异常值"
  else if point.pointKey = "cpu_usage" ∧ 90 < point.numberValue then some "CPU 使用率异常值"
  else if point.pointKey = "memory_usage" ∧ 85 < point.numberValue then some "内存使用率异常值"
  else none

/-- The status of fresh data that are not valid. -/
def invalidStatus (data : RealtimeDeviceData) : RealtimeDeviceData :=
  let data := { data with statusLevel := "error", dataState := "invalid" }
  let reason := data.errorMessage
  if reason = "modbus_timeout" then
    { data with statusText := "通信超时", node := { data.node with online := false } }
  else if reason = "modbus_crc_error" then
    { data with statusText := "CRC 校验错误", node := { data.node with online := false } }
  else if reason = "invalid_data" then { data with statusText := "非法数据" }
  else if reason = "device_offline" then
    { data with
      statusText := "设备离线"
      node := { data.node with online := false }
      statusLevel := "offline"
      dataState := "offline" }
  else if reason = "unknown_device_type" then { data with statusText := "未知设备类型" }
  else { data with statusText := if reason = "" then "数据无效" else reason }

def offlineStatus (data : RealtimeDeviceData) : RealtimeDeviceData :=
  { data with
    statusLevel := "offline"
    statusText := "设备离线，保留最后值"
    dataState := "offline"
    node := { data.node with status := "offline", online := false } }

/-- The time since the last update, too long if there was none. -/
def ageMs (nowMs : Int) (data : RealtimeDeviceData) : Int :=
  if 0 < data.node.lastUpdateTime then nowMs - data.node.lastUpdateTime
  else kRealtimeOfflineMs + 1

/-- The status of fresh data, before their validity and values are looked at. -/
def onlineStatus (data : RealtimeDeviceData) : RealtimeDeviceData :=
  let data :=
    { data with
      node := { data.node with online := true, status := "online" }
      statusLevel := "normal"
      statusText := "正常"
      dataState := "normal" }
  if data.node.deviceType = "unknown" then
    { data with
      statusLevel := "warning"
      statusText := "未知设备类型"
      errorMessage := if data.errorMessage = "" then "unknown_device_type" else data.errorMessage }
  else data

def freshStatus (data : RealtimeDeviceData) : RealtimeDeviceData :=
  let data := onlineStatus data
  if !data.valid then invalidStatus data
  else
    let warnings := data.points.filterMap pointWarning
    if warnings ≠ [] then
      { data with statusLevel := "warning", statusText := "、".intercalate warnings }
    else data

def unknownStatus (data : RealtimeDeviceData) : RealtimeDeviceData :=
  { data with
    statusLevel := "unknown"
    statusText := "未知"
    dataState := "unknown"
    node := { data.node with online := false } }

def evaluateDeviceStatus (nowMs : Int) (data : RealtimeDeviceData) : RealtimeDeviceData :=
  let data := unknownStatus data
  if data.mock then
    { data with statusLevel := "mock", statusText := "演示数据", dataState := "mock" }
  else if reportsOffline data then offlineStatus data
  else if kRealtimeOfflineMs < ageMs nowMs data then offlineStatus data
  else if kRealtimeFreshMs < ageMs nowMs data then
    { data with
      statusLevel := "stale"
      statusText := "旧数据 / 数据过期"
      dataState := "stale"
      node := { data.node with status := "stale", online := false } }
  else freshStatus data

/-- What one point contributes to the record of its device. -/
def addPoint (data : RealtimeDeviceData) (point : TelemetryPointData) : RealtimeDeviceData :=
  { data with
    valid := data.valid && point.valid
    errorMessage := if data.errorMessage = "" ∧ point.errorMessage ≠ "" then point.errorMessage
      else data.errorMessage
    timestamp := if data.timestamp < point.timestampMs then point.timestampMs else data.timestamp
    node := { data.node with
      lastUpdateTime := if data.node.lastUpdateTime < point.receiveTimeMs then point.receiveTimeMs
        else data.node.lastUpdateTime } }

/-- The record before its points are looked at. -/
def startData (group : PointGroup) : RealtimeDeviceData where
  node :=
    { factoryId := group.first.factoryId
      factoryName := group.first.factoryName
      areaId := group.first.areaId
      areaName := group.first.areaName
      gatewayId := group.first.gatewayId
      gatewayName := group.first.gatewayName
      port := group.first.portId
      masterSlot := masterSlotFromPortId group.first.portId
      masterName := group.first.portName
      slaveAddr := group.first.deviceId
      deviceId := group.first.deviceId
      deviceName := group.first.deviceName
      deviceType := group.first.deviceType
      expectTelemetry := group.first.deviceType ≠ "relay" && group.first.deviceType ≠ "led"
      online := false
      status := "unknown"
      lastUpdateTime := group.first.receiveTimeMs }
  serviceOffline := false
  timestamp := group.first.timestampMs
  valid := true
  dataState := "normal"
  points := group.points

def buildRealtimeDeviceData (nowMs : Int) (group : PointGroup) : RealtimeDeviceData :=
  evaluateDeviceStatus nowMs (group.points.foldl addPoint (startData group))

/-- What the status and the points of a record leave alone. -/
structure SameDevice (before after : RealtimeDeviceData) : Prop where
  key : after.node.key = before.node.key
  factoryId : after.node.factoryId = before.node.factoryId
  areaId : after.node.areaId = before.node.areaId
  gatewayId : after.node.gatewayId = before.node.gatewayId
  port : after.node.port = before.node.port
  deviceId : after.node.deviceId = before.node.deviceId
  slaveAddr : after.node.slaveAddr = before.node.slaveAddr
  points : after.points = before.points
  serviceOffline : after.serviceOffline = before.serviceOffline

namespace SameDevice

theorem trans {first second third : RealtimeDeviceData} (front : SameDevice first second)
    (back : SameDevice second third) : SameDevice first third where
  key := back.key.trans front.key
  factoryId := back.factoryId.trans front.factoryId
  areaId := back.areaId.trans front.areaId
  gatewayId := back.gatewayId.trans front.gatewayId
  port := back.port.trans front.port
  deviceId := back.deviceId.trans front.deviceId
  slaveAddr := back.slaveAddr.trans front.slaveAddr
  points := back.points.trans front.points
  serviceOffline := back.serviceOffline.trans front.serviceOffline

theorem identified {before after : RealtimeDeviceData} (same : SameDevice before after)
    (named : before.node.Identified) : after.node.Identified := by
  rw [DeviceNode.Identified, same.factoryId, same.areaId, same.gatewayId, same.port, same.deviceId]
  exact named

end SameDevice

theorem invalidStatus_same (data : RealtimeDeviceData) : SameDevice data (invalidStatus data) := by
  unfold invalidStatus
  dsimp only
  split_ifs <;> exact ⟨rfl, rfl, rfl, rfl, rfl, rfl, rfl, rfl, rfl⟩

theorem onlineStatus_same (data : RealtimeDeviceData) : SameDevice data (onlineStatus data) := by
  unfold onlineStatus
  dsimp only
  split_ifs <;> exact ⟨rfl, rfl, rfl, rfl, rfl, rfl, rfl, rfl, rfl⟩

theorem freshStatus_same (data : RealtimeDeviceData) : SameDevice data (freshStatus data) := by
  refine (onlineStatus_same data).trans ?_
  unfold freshStatus
  generalize onlineStatus data = online
  dsimp only
  split_ifs
  · exact invalidStatus_same online
  · exact ⟨rfl, rfl, rfl, rfl, rfl, rfl, rfl, rfl, rfl⟩
  · exact ⟨rfl, rfl, rfl, rfl, rfl, rfl, rfl, rfl, rfl⟩

theorem evaluateDeviceStatus_same (nowMs : Int) (data : RealtimeDeviceData) :
    SameDevice data (evaluateDeviceStatus nowMs data) := by
  unfold evaluateDeviceStatus
  dsimp only
  split_ifs with mocked reported old stale
  · exact ⟨rfl, rfl, rfl, rfl, rfl, rfl, rfl, rfl, rfl⟩
  · exact ⟨rfl, rfl, rfl, rfl, rfl, rfl, rfl, rfl, rfl⟩
  · exact ⟨rfl, rfl, rfl, rfl, rfl, rfl, rfl, rfl, rfl⟩
  · exact ⟨rfl, rfl, rfl, rfl, rfl, rfl, rfl, rfl, rfl⟩
  · exact SameDevice.trans ⟨rfl, rfl, rfl, rfl, rfl, rfl, rfl, rfl, rfl⟩ (freshStatus_same _)

theorem foldl_addPoint_same (points : List TelemetryPointData) (data : RealtimeDeviceData) :
    SameDevice data (points.foldl addPoint data) := by
  induction points generalizing data with
  | nil => exact ⟨rfl, rfl, rfl, rfl, rfl, rfl, rfl, rfl, rfl⟩
  | cons point points ih =>
      have added : SameDevice data (addPoint data point) :=
        ⟨rfl, rfl, rfl, rfl, rfl, rfl, rfl, rfl, rfl⟩
      exact added.trans (ih (addPoint data point))

theorem buildRealtimeDeviceData_same (nowMs : Int) (group : PointGroup) :
    SameDevice (startData group) (buildRealtimeDeviceData nowMs group) :=
  (foldl_addPoint_same _ _).trans (evaluateDeviceStatus_same nowMs _)

theorem buildRealtimeDeviceData_identified (nowMs : Int) (group : PointGroup) :
    (buildRealtimeDeviceData nowMs group).node.Identified :=
  (buildRealtimeDeviceData_same nowMs group).identified group.identified

/-! ### What the status says -/

/-- The status has been computed without touching what was reported. -/
structure SameReport (before after : RealtimeDeviceData) : Prop where
  valid : after.valid = before.valid
  lastUpdateTime : after.node.lastUpdateTime = before.node.lastUpdateTime
  errorMessage : forall text, text ≠ "" -> text ≠ "unknown_device_type" ->
    (after.errorMessage = text ↔ before.errorMessage = text)

namespace SameReport

theorem reportsOffline {before after : RealtimeDeviceData} (same : SameReport before after) :
    Realtime.reportsOffline after = Realtime.reportsOffline before := by
  have error : forall text, text ≠ "" -> text ≠ "unknown_device_type" ->
      decide (after.errorMessage = text) = decide (before.errorMessage = text) :=
    fun text named other => decide_eq_decide.mpr (same.errorMessage text named other)
  unfold Realtime.reportsOffline
  rw [same.valid, error "device_offline" (by decide) (by decide),
    error "modbus_timeout" (by decide) (by decide), error "timeout" (by decide) (by decide)]

theorem ageMs {before after : RealtimeDeviceData} (same : SameReport before after) (nowMs : Int) :
    Realtime.ageMs nowMs after = Realtime.ageMs nowMs before := by
  unfold Realtime.ageMs
  rw [same.lastUpdateTime]

end SameReport

/-- Invalid data whose error is a wrong checksum. -/
def checksumError (data : RealtimeDeviceData) : Prop :=
  data.valid = false ∧ data.errorMessage = "modbus_crc_error"

theorem SameReport.checksumError {before after : RealtimeDeviceData}
    (same : SameReport before after) :
    Realtime.checksumError after ↔ Realtime.checksumError before := by
  rw [Realtime.checksumError, same.valid,
    same.errorMessage "modbus_crc_error" (by decide) (by decide), Realtime.checksumError]

theorem SameReport.trans {first second third : RealtimeDeviceData}
    (front : SameReport first second) (back : SameReport second third) :
    SameReport first third where
  valid := back.valid.trans front.valid
  lastUpdateTime := back.lastUpdateTime.trans front.lastUpdateTime
  errorMessage text named other :=
    (back.errorMessage text named other).trans (front.errorMessage text named other)

theorem onlineStatus_spec (data : RealtimeDeviceData) :
    SameReport data (onlineStatus data) ∧ (onlineStatus data).node.online = true ∧
      (onlineStatus data).node.status = "online" := by
  unfold onlineStatus
  dsimp only
  split_ifs with typed unnamed
  · refine ⟨⟨rfl, rfl, ?_⟩, rfl, rfl⟩
    intro text named other
    exact iff_of_false (Ne.symm other) fun same => named (same.symm.trans unnamed)
  · exact ⟨⟨rfl, rfl, fun _ _ _ => Iff.rfl⟩, rfl, rfl⟩
  · exact ⟨⟨rfl, rfl, fun _ _ _ => Iff.rfl⟩, rfl, rfl⟩

theorem invalidStatus_spec {data : RealtimeDeviceData} (invalid : data.valid = false)
    (online : data.node.online = true) (answered : reportsOffline data = false) :
    SameReport data (invalidStatus data) ∧ (invalidStatus data).node.status = data.node.status ∧
      ((invalidStatus data).node.online = true ↔ ¬ checksumError data) := by
  have others : data.errorMessage ≠ "modbus_timeout" ∧ data.errorMessage ≠ "device_offline" := by
    simp [reportsOffline, invalid] at answered
    exact ⟨answered.1.2, answered.1.1⟩
  unfold invalidStatus checksumError
  dsimp only
  rw [if_neg others.1]
  split_ifs with checksum wrong gone
  · exact ⟨⟨rfl, rfl, fun _ _ _ => Iff.rfl⟩, rfl, by simp [invalid, checksum]⟩
  · exact ⟨⟨rfl, rfl, fun _ _ _ => Iff.rfl⟩, rfl, by simp [online, checksum]⟩
  · exact absurd gone others.2
  · exact ⟨⟨rfl, rfl, fun _ _ _ => Iff.rfl⟩, rfl, by simp [online, checksum]⟩
  · exact ⟨⟨rfl, rfl, fun _ _ _ => Iff.rfl⟩, rfl, by simp [online, checksum]⟩
  · exact ⟨⟨rfl, rfl, fun _ _ _ => Iff.rfl⟩, rfl, by simp [online, checksum]⟩

theorem freshStatus_spec {data : RealtimeDeviceData} (answered : reportsOffline data = false) :
    SameReport data (freshStatus data) ∧ (freshStatus data).node.status = "online" ∧
      ((freshStatus data).node.online = true ↔ ¬ checksumError data) := by
  have fresh := onlineStatus_spec data
  rw [← fresh.1.reportsOffline] at answered
  rw [← fresh.1.checksumError, ← fresh.2.2]
  unfold freshStatus
  generalize onlineStatus data = online at fresh answered ⊢
  dsimp only
  cases validity : online.valid with
  | false =>
      have invalid := invalidStatus_spec validity fresh.2.1 answered
      rw [Bool.not_false, if_pos rfl]
      exact ⟨fresh.1.trans invalid.1, invalid.2.1, invalid.2.2⟩
  | true =>
      have normal : ¬ checksumError online := by simp [checksumError, validity]
      rw [Bool.not_true, if_neg Bool.false_ne_true]
      split
      · exact ⟨fresh.1.trans ⟨validity.symm ▸ rfl, rfl, fun _ _ _ => Iff.rfl⟩, rfl,
          iff_of_true fresh.2.1 normal⟩
      · exact ⟨fresh.1, rfl, iff_of_true fresh.2.1 normal⟩

/-- Fresh data that do not report the device offline. -/
def answersFreshly (nowMs : Int) (data : RealtimeDeviceData) : Prop :=
  reportsOffline data = false ∧ ageMs nowMs data ≤ kRealtimeFreshMs

/-- The status of data is online if they are fresh and report nothing else,
and then so is the device, except after a wrong checksum. -/
theorem evaluateDeviceStatus_spec (nowMs : Int) {data : RealtimeDeviceData}
    (real : data.mock = false) :
    SameReport data (evaluateDeviceStatus nowMs data) ∧
      ((evaluateDeviceStatus nowMs data).node.status = "online" ↔ answersFreshly nowMs data) ∧
      ((evaluateDeviceStatus nowMs data).node.online = true ↔
        answersFreshly nowMs data ∧ ¬ checksumError data) := by
  have reset : SameReport data (unknownStatus data) := ⟨rfl, rfl, fun _ _ _ => Iff.rfl⟩
  have order : kRealtimeFreshMs < kRealtimeOfflineMs := by decide
  unfold answersFreshly
  rw [← reset.reportsOffline, ← reset.checksumError, ← reset.ageMs nowMs]
  change (unknownStatus data).mock = false at real
  unfold evaluateDeviceStatus
  dsimp only
  generalize unknownStatus data = unknown at reset real ⊢
  rw [real, if_neg Bool.false_ne_true]
  cases reported : reportsOffline unknown with
  | true =>
      rw [if_pos rfl]
      refine ⟨reset.trans ⟨rfl, rfl, fun _ _ _ => Iff.rfl⟩, ?_, ?_⟩
      · simp [offlineStatus]
      · simp [offlineStatus]
  | false =>
      rw [if_neg Bool.false_ne_true]
      split_ifs with old stale
      · refine ⟨reset.trans ⟨rfl, rfl, fun _ _ _ => Iff.rfl⟩, ?_, ?_⟩
        · simp [offlineStatus, order.trans old]
        · simp [offlineStatus, order.trans old]
      · refine ⟨reset.trans ⟨rfl, rfl, fun _ _ _ => Iff.rfl⟩, ?_, ?_⟩
        · simp [stale]
        · simp [stale]
      · have fresh := freshStatus_spec reported
        rw [not_lt] at stale
        exact ⟨reset.trans fresh.1, iff_of_true fresh.2.1 ⟨rfl, stale⟩,
          fresh.2.2.trans (and_iff_right ⟨rfl, stale⟩).symm⟩

theorem foldl_addPoint_mock (points : List TelemetryPointData) (data : RealtimeDeviceData) :
    (points.foldl addPoint data).mock = data.mock := by
  induction points generalizing data with
  | nil => rfl
  | cons point points ih => exact ih (addPoint data point)

/-- The same, of the record that is built and of what it says itself. -/
theorem buildRealtimeDeviceData_spec (nowMs : Int) (group : PointGroup) :
    ((buildRealtimeDeviceData nowMs group).node.status = "online" ↔
        answersFreshly nowMs (buildRealtimeDeviceData nowMs group)) ∧
      ((buildRealtimeDeviceData nowMs group).node.online = true ↔
        answersFreshly nowMs (buildRealtimeDeviceData nowMs group) ∧
          ¬ checksumError (buildRealtimeDeviceData nowMs group)) := by
  have spec := evaluateDeviceStatus_spec nowMs (foldl_addPoint_mock group.points (startData group))
  unfold answersFreshly at spec ⊢
  rw [← spec.1.reportsOffline, ← spec.1.checksumError, ← spec.1.ageMs nowMs] at spec
  exact spec.2

/-- Enters a record unless a later one is there. -/
def insertLatest {Value : Type} {key : Value -> String} {Proper : Value -> Prop}
    (time : Value -> Int) (store : KeyedStore key Proper)
    (value : { value : Value // Proper value }) : KeyedStore key Proper :=
  match store.get (key value.1) with
  | none => store.insert value
  | some old => if time old ≤ time value.1 then store.insert value else store

def parseLatestPoints (nowMs : Int) (object : Json) : RealtimeMap :=
  (groupPointsByDevice object).values.foldl (fun deviceMap group =>
    let data := buildRealtimeDeviceData nowMs group
    if data.node.factoryId ≠ "" ∧ data.node.key ≠ "" then
      insertLatest (fun data => data.node.lastUpdateTime) deviceMap
        ⟨data, buildRealtimeDeviceData_identified nowMs group⟩
    else deviceMap) KeyedStore.empty

/-! ## The devices -/

def parseDeviceRow (row : Json) : DeviceNode :=
  let port := textOr (row.lookup "portId") ""
  let deviceId := intOr (row.lookup "deviceId") 0
  let status := textOr (row.lookup "status") "unknown"
  { factoryId := textOr (row.lookup "factoryId") ""
    factoryName := textOr (row.lookup "factoryName") ""
    areaId := textOr (row.lookup "areaId") ""
    areaName := textOr (row.lookup "areaName") ""
    gatewayId := textOr (row.lookup "gatewayId") ""
    gatewayName := textOr (row.lookup "gatewayName") ""
    port := port
    masterSlot := masterSlotFromPortId port
    masterName := textOr (row.lookup "portName") ""
    deviceId := deviceId
    slaveAddr := deviceId
    deviceName := textOr (row.lookup "deviceName") ""
    deviceType := normalizeDeviceType (textOr (row.lookup "deviceType") "")
    expectTelemetry := boolOr (row.lookup "expectTelemetry") true
    status := status
    statusReason := textOr (row.lookup "statusReason") ""
    online := status = "online"
    lastUpdateTime := longLongOf (row.lookup "lastSeenMs") }

def parseDevicesSnapshot (object : Json) : Devices :=
  (((Pc.memberArray object "devices").getD []).filter Json.isObj).foldl (fun deviceMap row =>
    if identified : (parseDeviceRow row).Identified then
      insertLatest DeviceNode.lastUpdateTime deviceMap ⟨parseDeviceRow row, identified⟩
    else deviceMap) KeyedStore.empty

/-! ## What the readers return -/

theorem get_insertLatest {Value : Type} {key : Value -> String} {Proper : Value -> Prop}
    {time : Value -> Int} {store : KeyedStore key Proper}
    {value : { value : Value // Proper value }} {own : String} {found : Value}
    (there : (insertLatest time store value).get own = some found) :
    found = value.1 ∨ store.get own = some found := by
  have inserted : (store.insert value).get own = some found ->
      found = value.1 ∨ store.get own = some found := by
    intro there
    rw [KeyedStore.get_insert] at there
    split at there
    · exact Or.inl (Option.some.inj there).symm
    · exact Or.inr there
  unfold insertLatest at there
  split at there
  · exact inserted there
  · split at there
    · exact inserted there
    · exact Or.inr there

/-- Every record read from a message has been built from a group of points. -/
theorem parseLatestPoints_built {nowMs : Int} {object : Json} {own : String}
    {data : RealtimeDeviceData} (read : (parseLatestPoints nowMs object).get own = some data) :
    exists group, data = buildRealtimeDeviceData nowMs group := by
  unfold parseLatestPoints at read
  generalize (groupPointsByDevice object).values = groups at read
  induction groups using List.reverseRecOn with
  | nil => cases read
  | append_singleton groups group ih =>
      rw [List.foldl_append, List.foldl_cons, List.foldl_nil] at read
      dsimp only at read
      split at read
      · rcases get_insertLatest read with same | before
        · exact ⟨group, same⟩
        · exact ih before
      · exact ih read

/-- Every device read from a message has been read from a row. -/
theorem parseDevicesSnapshot_row {object : Json} {own : String} {node : DeviceNode}
    (read : (parseDevicesSnapshot object).get own = some node) :
    exists row, node = parseDeviceRow row := by
  unfold parseDevicesSnapshot at read
  generalize ((Pc.memberArray object "devices").getD []).filter Json.isObj = rows at read
  induction rows using List.reverseRecOn with
  | nil => cases read
  | append_singleton rows row ih =>
      rw [List.foldl_append, List.foldl_cons, List.foldl_nil] at read
      split at read
      · rcases get_insertLatest read with same | before
        · exact ⟨row, same⟩
        · exact ih before
      · exact ih read

end Realtime
end Ui
end Imx6Gateway
