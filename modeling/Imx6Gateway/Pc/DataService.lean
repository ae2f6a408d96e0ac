import Imx6Gateway.Pc.CommandForward
import Imx6Gateway.Pc.Database
import Mathlib.Data.Finset.Erase
import Mathlib.Data.Finset.Filter
import Mathlib.Data.Finset.Insert

namespace Imx6Gateway
namespace Pc

open Library

/-!
# The memory of Pc_data

`PcDataService.cpp`: the latest points, what is registered, the devices and
ports that have been removed, and the requests that wait for an answer.  The
maps are under texts that put identifiers together with slashes.  A removed
device or port is remembered for half a minute; whoever looks first forgets
what is older.
-/

def kRemovedDeviceIgnoreMs : Int := 30000

def registryPortKey (gatewayId portId : String) : String :=
  gatewayId ++ "/" ++ portId

def registryPointKey (gatewayId portId : String) (deviceId : Int) (pointKey : String) : String :=
  registryDeviceKey gatewayId portId deviceId ++ "/" ++ pointKey

/-- `rfind(front, 0) == 0`. -/
def startsWith (front text : String) : Bool :=
  front.toList.isPrefixOf text.toList

structure SnapshotPoint where
  point : TelemetryPoint
  receiveTimeMs : Int
deriving DecidableEq

structure SyncRequest where
  requestId : Int
  pending : SyncGatewayPending
  requestTimeMs : Int
deriving DecidableEq

structure SyncGatewaySelection where
  gatewayId : String
  devices : List SyncSelectedDevice
deriving DecidableEq

structure DataService where
  snapshot : Table String SnapshotPoint
  deviceRegistry : Table String DeviceRecord
  gatewayPorts : Table String GatewayPort
  gatewayStatuses : Table String GatewayStatus
  pointConfigs : Table String PointConfig
  registeredGateways : Finset String
  registeredPorts : Finset String
  registeredDeviceTypes : Table String String
  registeredPointConfigs : Finset String
  removedDevices : Table String Int
  removedMasters : Table String Int
  syncPendingBySeq : Table Int SyncRequest
  pendingCommands : List PendingCommandTarget
  nextSyncRequestId : Int
  nextSyncSeq : Int

namespace DataService

def start : DataService where
  snapshot := ∅
  deviceRegistry := ∅
  gatewayPorts := ∅
  gatewayStatuses := ∅
  pointConfigs := ∅
  registeredGateways := ∅
  registeredPorts := ∅
  registeredDeviceTypes := ∅
  registeredPointConfigs := ∅
  removedDevices := ∅
  removedMasters := ∅
  syncPendingBySeq := ∅
  pendingCommands := []
  nextSyncRequestId := 1
  nextSyncSeq := 1

/-! ## Removed devices and ports -/

def pruneExpiredRemovedDevices (service : DataService) (nowMs : Int) : DataService :=
  { service with
    removedDevices := service.removedDevices.keepIf fun _ expiry => nowMs < expiry
    removedMasters := service.removedMasters.keepIf fun _ expiry => nowMs < expiry }

def isRemovedDeviceLocked (service : DataService) (gatewayId portId : String) (deviceId : Int) :
    Bool :=
  (service.removedDevices.get (registryDeviceKey gatewayId portId deviceId)).isSome

def isRemovedMasterLocked (service : DataService) (gatewayId portId : String) : Bool :=
  (service.removedMasters.get (registryPortKey gatewayId portId)).isSome

/-- `isRemovedDevice`, with the service that is left. -/
def isRemovedDevice (service : DataService) (nowMs : Int) (gatewayId portId : String)
    (deviceId : Int) : DataService × Bool :=
  if gatewayId = "" ∨ portId = "" ∨ deviceId ≤ 0 then (service, false)
  else
    let pruned := service.pruneExpiredRemovedDevices nowMs
    (pruned, pruned.isRemovedDeviceLocked gatewayId portId deviceId)

def forgetRemovedDevice (service : DataService) (nowMs : Int) (gatewayId portId : String)
    (deviceId : Int) : DataService :=
  if gatewayId = "" ∨ portId = "" ∨ deviceId ≤ 0 then service
  else
    let pruned := service.pruneExpiredRemovedDevices nowMs
    { pruned with
      removedDevices := pruned.removedDevices.erase (registryDeviceKey gatewayId portId deviceId)
      removedMasters := pruned.removedMasters.erase (registryPortKey gatewayId portId) }

def removeDeviceData (service : DataService) (nowMs : Int) (gatewayId portId : String)
    (deviceId : Int) : DataService :=
  if gatewayId = "" ∨ portId = "" ∨ deviceId ≤ 0 then service
  else
    let pruned := service.pruneExpiredRemovedDevices nowMs
    let key := registryDeviceKey gatewayId portId deviceId
    { pruned with
      snapshot := pruned.snapshot.keepIf fun _ stored =>
        !(stored.point.site.gatewayId = gatewayId && stored.point.site.portId = portId &&
          stored.point.deviceId = deviceId)
      registeredDeviceTypes := pruned.registeredDeviceTypes.erase key
      registeredPointConfigs := pruned.registeredPointConfigs.filter fun text =>
        !startsWith (key ++ "/") text
      removedDevices := pruned.removedDevices.put key (nowMs + kRemovedDeviceIgnoreMs) }

/-- `removeMasterData`, and whether it has removed points. -/
def removeMasterData (service : DataService) (nowMs : Int) (gatewayId portId : String) :
    DataService × Bool :=
  if gatewayId = "" ∨ portId = "" then (service, false)
  else
    let pruned := service.pruneExpiredRemovedDevices nowMs
    let onPort (stored : SnapshotPoint) : Bool :=
      stored.point.site.gatewayId = gatewayId && stored.point.site.portId = portId
    let front := registryPortKey gatewayId portId ++ "/"
    ({ pruned with
      snapshot := pruned.snapshot.keepIf fun _ stored => !onPort stored
      registeredDeviceTypes := pruned.registeredDeviceTypes.keepIf fun text _ =>
        !startsWith front text
      registeredPointConfigs := pruned.registeredPointConfigs.filter fun text =>
        !startsWith front text
      registeredPorts := pruned.registeredPorts.erase (registryPortKey gatewayId portId)
      removedDevices := Table.putAll
        (fun stored => registryDeviceKey gatewayId portId stored.point.deviceId)
        (fun _ => nowMs + kRemovedDeviceIgnoreMs)
        (pruned.snapshot.values.filter fun stored => onPort stored && 0 < stored.point.deviceId)
        pruned.removedDevices
      removedMasters := pruned.removedMasters.put (registryPortKey gatewayId portId)
        (nowMs + kRemovedDeviceIgnoreMs) },
    pruned.snapshot.any fun _ stored => onPort stored)

/-! ## Points -/

def storePoint (receiveTimeMs : Int) (snapshot : Table String SnapshotPoint)
    (point : TelemetryPoint) : Table String SnapshotPoint :=
  match snapshot.get point.pointId with
  | some old =>
      if old.receiveTimeMs ≤ receiveTimeMs then snapshot.put point.pointId ⟨point, receiveTimeMs⟩
      else snapshot
  | none => snapshot.put point.pointId ⟨point, receiveTimeMs⟩

def acceptsPoint (service : DataService) (point : TelemetryPoint) : Bool :=
  point.pointId ≠ "" &&
    !service.isRemovedDeviceLocked point.site.gatewayId point.site.portId point.deviceId &&
    !service.isRemovedMasterLocked point.site.gatewayId point.site.portId

/-- The points of a device that reports are replaced as a whole. -/
def handleTelemetryPoints (service : DataService) (receiveTimeMs : Int)
    (points : List TelemetryPoint) : DataService :=
  let pruned := service.pruneExpiredRemovedDevices receiveTimeMs
  let accepted := points.filter pruned.acceptsPoint
  let incomingDeviceKeys := accepted.map telemetryDeviceKey
  { pruned with
    snapshot := accepted.foldl (storePoint receiveTimeMs)
      (pruned.snapshot.keepIf fun _ stored =>
        !incomingDeviceKeys.contains (telemetryDeviceKey stored.point)) }

/-! ## What is registered -/

/-- One step of `updateDeviceRegistry` and of `rememberDeviceRegistries`. -/
def rememberDeviceRegistry (service : DataService) (device : DeviceRecord) : DataService :=
  if device.gatewayId = "" ∨ device.portId = "" ∨ device.deviceId ≤ 0 then service
  else
    let key := registryDeviceKey device.gatewayId device.portId device.deviceId
    { service with
      registeredGateways := insert device.gatewayId service.registeredGateways
      registeredPorts := insert (registryPortKey device.gatewayId device.portId)
        service.registeredPorts
      registeredDeviceTypes := service.registeredDeviceTypes.put key device.deviceType
      deviceRegistry := service.deviceRegistry.put key device }

def rememberDeviceRegistries (service : DataService) (devices : List DeviceRecord) : DataService :=
  devices.foldl rememberDeviceRegistry service

def rememberGatewayRegistry (service : DataService) (registry : GatewayRegistry) : DataService :=
  if registry.gatewayId = "" then service
  else { service with registeredGateways := insert registry.gatewayId service.registeredGateways }

/-- One step of `updateGatewayPorts` and of `rememberGatewayPorts`. -/
def updateGatewayPort (service : DataService) (port : GatewayPort) : DataService :=
  if port.gatewayId = "" ∨ port.portId = "" then service
  else
    let key := registryPortKey port.gatewayId port.portId
    { service with
      gatewayPorts := service.gatewayPorts.put key port
      registeredGateways := insert port.gatewayId service.registeredGateways
      registeredPorts := insert key service.registeredPorts }

def rememberGatewayPorts (service : DataService) (ports : List GatewayPort) : DataService :=
  ports.foldl updateGatewayPort service

def updateGatewayStatus (service : DataService) (gateway : GatewayStatus) : DataService :=
  if gateway.gatewayId = "" then service
  else
    { service with
      gatewayStatuses := service.gatewayStatuses.put gateway.gatewayId gateway
      registeredGateways := insert gateway.gatewayId service.registeredGateways }

def updateGatewayStatuses (service : DataService) (gateways : List GatewayStatus) : DataService :=
  gateways.foldl updateGatewayStatus service

/-- One step of `updatePointConfigs` and of `rememberPointConfigs`. -/
def updatePointConfig (service : DataService) (config : PointConfig) : DataService :=
  if config.gatewayId = "" ∨ config.portId = "" ∨ config.deviceId ≤ 0 ∨ config.pointKey = "" then
    service
  else
    let key := registryPointKey config.gatewayId config.portId config.deviceId config.pointKey
    { service with
      pointConfigs := service.pointConfigs.put key config
      registeredPointConfigs := insert key service.registeredPointConfigs }

def rememberPointConfigs (service : DataService) (configs : List PointConfig) : DataService :=
  configs.foldl updatePointConfig service

/-- What a full snapshot clears before it is entered. -/
def clearGateway (service : DataService) (gatewayId : String) : DataService :=
  let front := gatewayId ++ "/"
  { service with
    registeredPorts := service.registeredPorts.filter fun text => !startsWith front text
    registeredDeviceTypes := service.registeredDeviceTypes.keepIf fun text _ =>
      !startsWith front text
    registeredPointConfigs := service.registeredPointConfigs.filter fun text =>
      !startsWith front text
    deviceRegistry := service.deviceRegistry.keepIf fun _ device => device.gatewayId ≠ gatewayId
    gatewayPorts := service.gatewayPorts.keepIf fun _ port => port.gatewayId ≠ gatewayId
    pointConfigs := service.pointConfigs.keepIf fun _ config => config.gatewayId ≠ gatewayId }

def replaceGatewayRegistry (service : DataService) (gatewayId : String) (snapshot : ConfigSnapshot)
    (fullSnapshot : Bool) : DataService :=
  if gatewayId = "" then service
  else
    let known := { service with
      registeredGateways := insert gatewayId service.registeredGateways }
    let cleared := if fullSnapshot then known.clearGateway gatewayId else known
    let ports := cleared.rememberGatewayPorts
      (snapshot.ports.filter (Database.ownPort gatewayId))
    let devices := ports.rememberDeviceRegistries
      (snapshot.devices.filter (Database.ownEntry gatewayId))
    devices.rememberPointConfigs (snapshot.pointConfigs.filter fun config =>
      config.gatewayId = gatewayId)

def gatewayRegistered (service : DataService) (gatewayId : String) : Bool :=
  gatewayId ∈ service.registeredGateways ||
    service.deviceRegistry.any (fun _ device => device.gatewayId = gatewayId) ||
    service.gatewayPorts.any fun _ port => port.gatewayId = gatewayId

def portRegistered (service : DataService) (gatewayId portId : String) : Bool :=
  registryPortKey gatewayId portId ∈ service.registeredPorts ||
    (service.gatewayPorts.get (registryPortKey gatewayId portId)).isSome

def deviceRegistered (service : DataService) (gatewayId portId : String) (deviceId : Int) : Bool :=
  (service.registeredDeviceTypes.get (registryDeviceKey gatewayId portId deviceId)).isSome ||
    (service.deviceRegistry.get (registryDeviceKey gatewayId portId deviceId)).isSome

def registeredDeviceType (service : DataService) (gatewayId portId : String) (deviceId : Int) :
    String :=
  (service.registeredDeviceTypes.get (registryDeviceKey gatewayId portId deviceId)).getD ""

def pointConfigRegistered (service : DataService) (gatewayId portId : String) (deviceId : Int)
    (pointKey : String) : Bool :=
  registryPointKey gatewayId portId deviceId pointKey ∈ service.registeredPointConfigs ||
    (service.pointConfigs.get (registryPointKey gatewayId portId deviceId pointKey)).isSome

/-! ## Waiting requests -/

/-- One target of a request; targets without a gateway or devices are passed over. -/
def beginSync (nowMs requestId : Int) (state : DataService × List SyncGatewayPending)
    (target : SyncGatewaySelection) : DataService × List SyncGatewayPending :=
  if target.gatewayId = "" ∨ target.devices.isEmpty then state
  else
    let pending : SyncGatewayPending := ⟨state.1.nextSyncSeq, target.gatewayId, target.devices⟩
    ({ state.1 with
      syncPendingBySeq := state.1.syncPendingBySeq.put pending.seq ⟨requestId, pending, nowMs⟩
      nextSyncSeq := state.1.nextSyncSeq + 1 }, state.2 ++ [pending])

def beginSyncConfigRequest (service : DataService) (nowMs : Int)
    (targets : List SyncGatewaySelection) : DataService × List SyncGatewayPending :=
  targets.foldl (beginSync nowMs service.nextSyncRequestId)
    ({ service with nextSyncRequestId := service.nextSyncRequestId + 1 }, [])

def findSyncPending (service : DataService) (seq : Int) : Option SyncGatewayPending :=
  (service.syncPendingBySeq.get seq).map SyncRequest.pending

/-- What `completeSyncConfig` leaves waiting. -/
def completeSyncConfig (service : DataService) (seq : Int) : DataService :=
  { service with syncPendingBySeq := service.syncPendingBySeq.erase seq }

/-- What `collectSyncConfigTimeouts` leaves waiting. -/
def collectSyncConfigTimeouts (service : DataService) (nowMs timeoutMs : Int) : DataService :=
  { service with
    syncPendingBySeq := service.syncPendingBySeq.keepIf fun _ request =>
      nowMs - request.requestTimeMs < timeoutMs }

def rememberPendingCommand (service : DataService) (target : PendingCommandTarget) : DataService :=
  if target.commandId = "" ∨ target.commandType = "" then service
  else
    { service with
      pendingCommands := service.pendingCommands.filter
        (fun other => other.commandId ≠ target.commandId) ++ [target] }

/-- The requests for a configuration are kept. -/
def clear (service : DataService) : DataService :=
  { start with
    syncPendingBySeq := service.syncPendingBySeq
    nextSyncRequestId := service.nextSyncRequestId
    nextSyncSeq := service.nextSyncSeq }

end DataService
end Pc
end Imx6Gateway
