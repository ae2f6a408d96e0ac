import Imx6Gateway.Board.DeviceData
import Imx6Gateway.Board.JsonC
import Imx6Gateway.Board.Protocol

namespace Imx6Gateway
namespace Board

open Library

/-!
# Telemetry of the board

`data_telemetry.c` writes a pack of measured data as JSON.  Each device is
written in three ways at once: as an object of its own, as members of the
device, and as a list of points.  The clock is an argument.
-/

structure SiteContext where
  factoryId : String
  factoryName : String
  areaId : String
  areaName : String
  gatewayId : String
  gatewayName : String
  portId : String
  portName : String
deriving DecidableEq

def maxDevicesPerPack : Nat := 8

/-- `telemetry_pack_t`; the array holds the devices that count. -/
structure TelemetryPack where
  seq : UInt32
  timestamp : Int64
  timestampMs : Int64
  sourceId : String
  targetId : String
  site : SiteContext
  devices : List DeviceData
  bounded : devices.length ≤ maxDevicesPerPack

def fillDefaultSite : SiteContext where
  factoryId := "factory_001"
  factoryName := "1号厂房"
  areaId := "area_001"
  areaName := "配电房"
  gatewayId := defaultGatewayId
  gatewayName := "i.MX6ULL_001"
  portId := "port_001"
  portName := "RS485-1"

def fillSlotSite (slot : Int) : SiteContext :=
  if slot = 1 then { fillDefaultSite with portId := "port_002", portName := "RS485-2" }
  else fillDefaultSite

/-- `telemetry_pack_single_for_slot`; the sequence number is a counter of its own. -/
def telemetryPackSingleForSlot (seq : UInt32) (nowMs : Int64) (slot : Int) (dev : DeviceData) :
    TelemetryPack where
  seq := seq
  timestamp := nowMs / 1000
  timestampMs := nowMs
  sourceId := "gateway_001"
  targetId := "pc_data_001"
  site := fillSlotSite slot
  devices := [dev]
  bounded := by simp [maxDevicesPerPack]

def deviceTypeToStr : DeviceReading -> String
  | .sensorTh .. => "sensor_th"
  | .relay .. => "relay"
  | .electricMeter .. => "electric_meter"
  | .sysinfo .. => "sysinfo"
  | .unknown => "unknown"

def siteToJson (site : SiteContext) : Json :=
  .obj [("factoryId", .str site.factoryId), ("factoryName", .str site.factoryName),
    ("areaId", .str site.areaId), ("areaName", .str site.areaName),
    ("gatewayId", .str site.gatewayId), ("gatewayName", .str site.gatewayName),
    ("portId", .str site.portId), ("portName", .str site.portName)]

def defaultDeviceName (dev : DeviceData) : String :=
  if dev.deviceName = "" then copyText 64 ("Device " ++ toString dev.deviceId.toInt)
  else dev.deviceName

/-- A missing channel count stands for sixteen channels. -/
def channelCountOf (channelCount : Int32) : Int32 :=
  if 0 < channelCount.toInt then channelCount else 16

/-- The members that depend on the type of the device. -/
def readingMembers : DeviceReading -> List (String × Json)
  | .unknown => []
  | .sensorTh temperature humidity =>
      [("th", .obj [("temperature", jsonSingle temperature), ("humidity", jsonSingle humidity)]),
        ("temperature", jsonSingle temperature), ("humidity", jsonSingle humidity),
        ("temp", jsonSingle temperature), ("humi", jsonSingle humidity)]
  | .relay relayStates channelCount =>
      [("relay", .obj [("relayStates", .int relayStates.toNat),
          ("channelCount", jsonInt (channelCountOf channelCount))]),
        ("relayStates", .int relayStates.toNat),
        ("channelCount", jsonInt (channelCountOf channelCount)),
        ("states", .int relayStates.toNat)]
  | .electricMeter voltage current power energy =>
      [("meter", .obj [("voltage", jsonSingle voltage), ("current", jsonSingle current),
          ("power", jsonSingle power), ("energy", jsonSingle energy)]),
        ("voltage", jsonSingle voltage), ("current", jsonSingle current),
        ("power", jsonSingle power), ("energy", jsonSingle energy)]
  | .sysinfo kernel arch os screenW screenH cpuUsage memoryUsage =>
      [("sys", .obj [("kernel", .str kernel), ("arch", .str arch), ("os", .str os),
          ("screenWidth", jsonInt screenW), ("screenHeight", jsonInt screenH),
          ("cpuUsage", jsonDouble cpuUsage), ("memoryUsage", jsonDouble memoryUsage)]),
        ("kernel", .str kernel), ("arch", .str arch), ("os", .str os),
        ("screenWidth", jsonInt screenW), ("screenHeight", jsonInt screenH),
        ("cpuUsage", jsonDouble cpuUsage), ("memoryUsage", jsonDouble memoryUsage),
        ("screen_w", jsonInt screenW), ("screen_h", jsonInt screenH)]

def numberPoint (pointKey pointName unit : String) (value : Single) : Json :=
  .obj [("pointKey", .str pointKey), ("pointName", .str pointName), ("valueType", .str "Number"),
    ("numberValue", jsonSingle value), ("unit", .str unit)]

/-- Of a relay only the first channel becomes a point. -/
def devicePoints : DeviceReading -> List Json
  | .sensorTh temperature humidity =>
      [numberPoint "temperature" "温度" "℃" temperature, numberPoint "humidity" "湿度" "%" humidity]
  | .relay relayStates _ =>
      [.obj [("pointKey", .str "relay.ch1"), ("pointName", .str "继电器通道1"),
        ("valueType", .str "Boolean"), ("boolValue", .bool (relayStates.getLsbD 0)),
        ("unit", .str "")]]
  | _ => []

def packDeviceJson (nowMs : Int64) (dev : DeviceData) : Json :=
  .obj ([("deviceId", jsonInt dev.deviceId), ("deviceName", .str (defaultDeviceName dev)),
      ("deviceType", .str (deviceTypeToStr dev.reading)), ("timestampMs", .int nowMs.toInt),
      ("valid", .bool dev.valid),
      ("errorMessage", .str (if dev.valid || dev.errorMessage ≠ "" then dev.errorMessage
        else "数据无效")),
      ("id", jsonInt dev.deviceId), ("type", .str (deviceTypeToStr dev.reading))] ++
    (readingMembers dev.reading ++
      Json.memberIf (devicePoints dev.reading ≠ []) "points" (.arr (devicePoints dev.reading))))

def telemetryPackJson (nowMs : Int64) (pack : TelemetryPack) : Json :=
  .obj [("type", .str "telemetry_pack"), ("version", .int 1), ("sequence", .int pack.seq.toNat),
    ("timestampMs", .int pack.timestampMs.toInt), ("sourceId", .str pack.sourceId),
    ("targetId", .str pack.targetId), ("site", siteToJson pack.site), ("ver", .int 1),
    ("seq", .int pack.seq.toNat), ("time", .int pack.timestamp.toInt),
    ("count", .int pack.devices.length),
    ("devices", .arr (pack.devices.map (packDeviceJson nowMs)))]

/-- The text with its line end, if both and a terminator fit the buffer. -/
def telemetryPackToJson (library : JsonC) (nowMs : Int64) (bufSize : Nat) (pack : TelemetryPack) :
    Option String :=
  let text := library.print (telemetryPackJson nowMs pack)
  if textBytes text + 2 ≤ bufSize then some (text ++ "\n") else none

end Board
end Imx6Gateway
