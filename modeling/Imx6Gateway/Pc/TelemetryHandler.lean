import Imx6Gateway.Pc.DataService

namespace Imx6Gateway
namespace Pc

open Library

/-!
# The telemetry branch of Pc_data

`MqttMessageHandler.cpp` queues a telemetry pack; a worker takes the queue's
front, filters the pack by what is registered, and gives the points to the
memory and to a second worker, which writes them to the database.
-/

structure TelemetryMessage where
  topic : String
  payload : String
deriving DecidableEq, Repr

/-- The running program: its database, its memory, and what its workers share. -/
structure PcData where
  database : Database
  service : DataService
  lastConfigRequestMs : Table String Int
  telemetryQueue : List TelemetryMessage
  pendingDbPoints : Table String TelemetryPoint

/-- The program after the start, when it has read the database. -/
def seeded (database : Database) (nowMs : Int) : PcData where
  database := database
  service :=
    if database.isOpen then
      ((((DataService.start.updateGatewayStatuses database.gatewayStatuses.values
        ).rememberGatewayPorts database.gatewayPorts.values
        ).rememberDeviceRegistries database.queryDevices
        ).rememberPointConfigs (database.pointConfigs.values.filter fun config =>
          config.enabled && config.gatewayId ≠ "" && config.portId ≠ "" && 0 < config.deviceId &&
            config.pointKey ≠ "")
        ).handleTelemetryPoints nowMs (database.latestPoints.values.filter fun point =>
          point.pointId ≠ "")
    else DataService.start
  lastConfigRequestMs := ∅
  telemetryQueue := []
  pendingDbPoints := ∅

def kUnknownTelemetryConfigRequestIntervalMs : Int := 5000

def kMaxTelemetryQueueSize : Nat := 256

def isRelayPointKey (pointKey : String) : Bool :=
  match afterFront "relay_".toList pointKey.toList with
  | none => false
  | some rest =>
      match stoi (String.ofList rest) with
      | some channel => 1 ≤ channel ∧ channel ≤ 16
      | none => false

def isDefaultTelemetryPointKey (deviceType pointKey : String) : Bool :=
  if deviceType = "sensor_th" then ["temperature", "humidity"].contains pointKey
  else if deviceType = "relay" then
    ["state", "ch1"].contains pointKey || isRelayPointKey pointKey
  else if deviceType = "electric_meter" ∨ deviceType = "meter" then
    ["voltage", "current", "power", "energy"].contains pointKey
  else false

def deviceTypesMatch (registeredType telemetryType : String) : Bool :=
  registeredType = "" || telemetryType = "" || telemetryType = "unknown" ||
    registeredType = telemetryType ||
    (registeredType = "meter" && telemetryType = "electric_meter") ||
    (registeredType = "electric_meter" && telemetryType = "meter")

def normalizeTelemetryPointKey (pointKey : String) : String :=
  match afterFront "relay.ch".toList pointKey.toList with
  | some channel => "relay_" ++ String.ofList channel
  | none =>
      if (afterFront "relay_".toList pointKey.toList).isSome then pointKey
      else
        match afterFront "ch".toList pointKey.toList with
        | some channel => "relay_" ++ String.ofList channel
        | none => if pointKey = "relay" ∨ pointKey = "state" then "relay_1" else pointKey

/-- The key of a device within one pack. -/
def packDeviceKey (portId : String) (deviceId : Int) : String :=
  portId ++ "/" ++ toString deviceId

/-- What has been found out about the devices of a pack so far. -/
structure PackScan where
  devices : List DeviceData
  deviceTypes : Table String String
  pointKeys : Table String (List String)
  lastConfigRequestMs : Table String Int
  publications : List Publication

namespace PcData

section Packs

variable (pc : JsonCodec) (nowMs : Int)

/-- An unknown device asks for a configuration, but not too often. -/
def requestConfig (site : SiteContext) (scan : PackScan) : PackScan :=
  let requestKey := site.gatewayId ++ "/" ++ site.portId
  let due := match scan.lastConfigRequestMs.get requestKey with
    | none => true
    | some last => kUnknownTelemetryConfigRequestIntervalMs ≤ nowMs - last
  if due then
    { scan with
      lastConfigRequestMs := scan.lastConfigRequestMs.put requestKey nowMs
      publications := scan.publications ++
        (publishConfigSnapshotRequest pc nowMs site.gatewayId).toList }
  else scan

/-- One turn of the loop over the devices of a pack. -/
def scanDevice (service : DataService) (pack : TelemetryPack) (scan : PackScan)
    (device : DeviceData) : PackScan :=
  let gatewayId := pack.site.gatewayId
  let portId := pack.site.portId
  if gatewayId = "" ∨ portId = "" ∨ device.deviceId ≤ 0 then scan
  else if service.isRemovedDeviceLocked gatewayId portId device.deviceId then scan
  else if !service.deviceRegistered gatewayId portId device.deviceId then
    requestConfig pc nowMs pack.site scan
  else
    let registeredType := service.registeredDeviceType gatewayId portId device.deviceId
    let telemetryType := deviceTypeToString device.type
    if !deviceTypesMatch registeredType telemetryType then scan
    else
      let key := packDeviceKey portId device.deviceId
      let keys := (devicePoints pack device).map fun point =>
        normalizeTelemetryPointKey point.pointKey
      { scan with
        devices := scan.devices ++ [device]
        deviceTypes := scan.deviceTypes.put key (orElse registeredType telemetryType)
        pointKeys := scan.pointKeys.put key ((scan.pointKeys.get key).getD [] ++ keys) }

/-- The point is kept: it was sent, and it is configured or usual for the type. -/
def keepsPoint (service : DataService) (scan : PackScan) (point : TelemetryPoint) : Bool :=
  let key := packDeviceKey point.site.portId point.deviceId
  let deviceType := (scan.deviceTypes.get key).getD point.deviceType
  let pointKey := normalizeTelemetryPointKey point.pointKey
  let sent := (scan.pointKeys.get key).getD []
  (sent.isEmpty || sent.contains pointKey) &&
    (service.pointConfigRegistered point.site.gatewayId point.site.portId point.deviceId pointKey ||
      isDefaultTelemetryPointKey deviceType pointKey)

/-- The pack comes from its own topic, and its gateway and port are registered. -/
def acceptsPack (service : DataService) (topic : String) (pack : TelemetryPack) : Bool :=
  pack.site.gatewayId ≠ "" && pack.site.portId ≠ "" &&
    parsePortUpTopic topic = some (pack.site.gatewayId, pack.site.portId) &&
    service.gatewayRegistered pack.site.gatewayId &&
    service.portRegistered pack.site.gatewayId pack.site.portId

/-- What is found out about all devices of a pack. -/
def scanPack (state : PcData) (pack : TelemetryPack) : PackScan :=
  pack.devices.foldl
    (scanDevice pc nowMs (state.service.pruneExpiredRemovedDevices nowMs) pack)
    { devices := []
      deviceTypes := ∅
      pointKeys := ∅
      lastConfigRequestMs := state.lastConfigRequestMs
      publications := [] }

def receivedPoints (state : PcData) (pack : TelemetryPack) : List TelemetryPoint :=
  let scan := state.scanPack pc nowMs pack
  (toTelemetryPoints { pack with devices := scan.devices }).filter (keepsPoint state.service scan)

/-- The loop over a pack only keeps devices that are registered. -/
theorem registered_of_scanned {service : DataService} {pack : TelemetryPack}
    {devices : List DeviceData} {scan : PackScan} {device : DeviceData}
    (kept : device ∈ (devices.foldl (scanDevice pc nowMs service pack) scan).devices) :
    device ∈ scan.devices ∨
      service.deviceRegistered pack.site.gatewayId pack.site.portId device.deviceId = true := by
  induction devices generalizing scan with
  | nil => exact Or.inl kept
  | cons first devices ih =>
      rcases ih kept with old | registered
      · unfold scanDevice at old
        dsimp only at old
        split at old
        · exact Or.inl old
        · split at old
          · exact Or.inl old
          · split at old
            · unfold requestConfig at old
              dsimp only at old
              split_ifs at old
              · exact Or.inl old
              · exact Or.inl old
            · rename_i registered
              split at old
              · exact Or.inl old
              · rcases List.mem_append.mp old with before | new
                · exact Or.inl before
                · rw [List.mem_singleton.mp new]
                  rw [Bool.not_eq_true', Bool.not_eq_false] at registered
                  exact Or.inr registered
      · exact Or.inr registered

/-- A point that a pack hands over belongs to a device that is registered. -/
theorem registered_of_received {state : PcData} {pack : TelemetryPack} {point : TelemetryPoint}
    (received : point ∈ state.receivedPoints pc nowMs pack) :
    state.service.deviceRegistered point.site.gatewayId point.site.portId point.deviceId = true := by
  have listed := (List.mem_filter.mp received).1
  rcases List.mem_flatMap.mp listed with ⟨device, kept, inside⟩
  have named := of_mem_devicePoints inside
  rw [named.1, named.2.1]
  rcases registered_of_scanned pc nowMs kept with none | registered
  · cases none
  · exact registered

variable (stod : String -> Option Rat)

def handleTelemetryMessage (state : PcData) (message : TelemetryMessage) :
    PcData × List Publication :=
  match parseJson stod pc nowMs message.payload with
  | .error _ => (state, [])
  | .ok pack =>
      if !acceptsPack state.service message.topic pack then (state, [])
      else
        let scan := state.scanPack pc nowMs pack
        let points := state.receivedPoints pc nowMs pack
        ({ state with
          service := state.service.handleTelemetryPoints nowMs points
          lastConfigRequestMs := scan.lastConfigRequestMs
          pendingDbPoints := Table.putAll TelemetryPoint.pointId id
            (points.filter fun point => point.pointId ≠ "") state.pendingDbPoints },
        scan.publications)

/-- The oldest message makes room in a full queue. -/
def enqueueTelemetry (state : PcData) (message : TelemetryMessage) : PcData :=
  let kept := if kMaxTelemetryQueueSize ≤ state.telemetryQueue.length then
    state.telemetryQueue.tail else state.telemetryQueue
  { state with telemetryQueue := kept ++ [message] }

/-- One turn of `telemetryWorkerLoop`. -/
def telemetryWorker (state : PcData) : PcData × List Publication :=
  match state.telemetryQueue with
  | [] => (state, [])
  | message :: rest =>
      { state with telemetryQueue := rest }.handleTelemetryMessage pc nowMs stod message

/-- One turn of `dbWriterLoop`. -/
def dbWriter (state : PcData) : PcData :=
  let points := state.pendingDbPoints.values
  let drained := { state with pendingDbPoints := ∅ }
  if points.isEmpty || !state.database.isOpen then drained
  else { drained with database := (state.database.saveTelemetryPoints nowMs points).1 }

end Packs
end PcData
end Pc
end Imx6Gateway
