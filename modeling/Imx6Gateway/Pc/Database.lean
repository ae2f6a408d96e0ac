import Imx6Gateway.Library.Table
import Imx6Gateway.Pc.PointConfigPack

namespace Imx6Gateway
namespace Pc

open Library

/-!
# The database of Pc_data

The tables of `PcDatabase.cpp` with the functions that change the devices.
Each function runs one or more transactions, and each transaction is committed
or rolled back as a whole; the environment decides which, through `outcomes`.
`committed` records what has been committed, for the statements about what a
message has stored.  Reading an open database succeeds.
-/

/-- What identifies a device.  The functions refuse every other key, so no row
is without a gateway, a port or a device number. -/
structure DeviceKey where
  gatewayId : String
  portId : String
  deviceId : Int
  gatewayNamed : gatewayId ≠ ""
  portNamed : portId ≠ ""
  positive : 0 < deviceId
deriving DecidableEq, Repr

def deviceKey? (gatewayId portId : String) (deviceId : Int) : Option DeviceKey :=
  if valid : gatewayId ≠ "" ∧ portId ≠ "" ∧ 0 < deviceId then
    some ⟨gatewayId, portId, deviceId, valid.1, valid.2.1, valid.2.2⟩
  else none

theorem deviceKey?_eq_some_iff {gatewayId portId : String} {deviceId : Int} {key : DeviceKey} :
    deviceKey? gatewayId portId deviceId = some key ↔
      key.gatewayId = gatewayId ∧ key.portId = portId ∧ key.deviceId = deviceId := by
  unfold deviceKey?
  constructor
  · intro found
    split at found
    · injection found with same
      rw [← same]
      exact ⟨rfl, rfl, rfl⟩
    · cases found
  · rintro ⟨rfl, rfl, rfl⟩
    rw [dif_pos ⟨key.gatewayNamed, key.portNamed, key.positive⟩]

@[simp]
theorem deviceKey?_key (key : DeviceKey) :
    deviceKey? key.gatewayId key.portId key.deviceId = some key :=
  deviceKey?_eq_some_iff.mpr ⟨rfl, rfl, rfl⟩

def DeviceRecord.key? (device : DeviceRecord) : Option DeviceKey :=
  deviceKey? device.gatewayId device.portId device.deviceId

/-- A row of the table `device`; its key columns are the key of the table. -/
structure DeviceRow where
  factoryId : String
  factoryName : String
  areaId : String
  areaName : String
  gatewayName : String
  portName : String
  deviceName : String
  deviceType : String
  pollIntervalMs : Int
  expectTelemetry : Bool
  enabled : Bool
  deleted : Bool
  deletedTimeMs : Int
  status : String
  createTimeMs : Int
  updateTimeMs : Int
deriving DecidableEq, Repr

structure DeviceStatusRow where
  status : String
  lastSeenMs : Int
  lastOfflineMs : Int
  statusReason : String
  updateTimeMs : Int
deriving DecidableEq, Repr

/-- The condition of `deviceExists` and `queryDevices`. -/
def DeviceRow.active (row : DeviceRow) : Bool :=
  row.enabled && !row.deleted && row.status = "active"

/-- The condition of `deviceDeleted`. -/
def DeviceRow.tombstoned (row : DeviceRow) : Bool :=
  row.deleted || row.status = "deleted"

theorem DeviceRow.not_tombstoned_of_active {row : DeviceRow} (active : row.active = true) :
    row.tombstoned = false := by
  rw [DeviceRow.active, Bool.and_eq_true, Bool.and_eq_true, Bool.not_eq_true', decide_eq_true_eq]
    at active
  rw [DeviceRow.tombstoned, active.1.2, active.2]
  rfl

/-- The text that names a device in the maps of the program. -/
def registryDeviceKey (gatewayId portId : String) (deviceId : Int) : String :=
  gatewayId ++ "/" ++ portId ++ "/" ++ toString deviceId

def telemetryDeviceKey (point : TelemetryPoint) : String :=
  registryDeviceKey point.site.gatewayId point.site.portId point.deviceId

/-- What a transaction has written. -/
inductive Write where
  | gatewayRegistry (registry : GatewayRegistry)
  | gatewayStatus (gateway : GatewayStatus)
  | registryHeartbeat (gatewayId status : String)
  | statusHeartbeat (gatewayId status : String)
  | gatewayPort (port : GatewayPort)
  | device (device : DeviceRecord)
  | pointConfigs (configs : List PointConfig)
  | telemetry (points : List TelemetryPoint)
  | alarm (event : AlarmEvent)
  | deviceDeleted (key : DeviceKey)
  | masterDeleted (gatewayId portId : String)
  | selectionCleared (keys : List DeviceKey)
  | deviceReactivated (key : DeviceKey)
  | runtimeCleared
deriving DecidableEq

structure Database where
  isOpen : Bool
  devices : Table DeviceKey DeviceRow
  deviceStatuses : Table DeviceKey DeviceStatusRow
  gatewayRegistries : Table String GatewayRegistry
  gatewayStatuses : Table String GatewayStatus
  gatewayPorts : Table (String × String) GatewayPort
  pointConfigs : Table String PointConfig
  latestPoints : Table String TelemetryPoint
  telemetryHistory : List TelemetryPoint
  outcomes : List Bool
  committed : List Write

namespace Database

/-- Runs a transaction.  Outcomes that are not listed are commits. -/
def transact (database : Database) (write : Write) (effect : Database -> Database) :
    Database × Bool :=
  let next := { database with outcomes := database.outcomes.tail }
  if database.outcomes.headD true then
    ({ effect next with committed := database.committed ++ [write] }, true)
  else (next, false)

/-- Goes through a list; the result is the conjunction of the results. -/
def each {Item : Type} (operation : Database -> Item -> Database × Bool) (database : Database)
    (items : List Item) : Database × Bool :=
  items.foldl
    (fun state item => ((operation state.1 item).1, (operation state.1 item).2 && state.2))
    (database, true)

/-! ## Devices -/

def deviceExists (database : Database) (gatewayId portId : String) (deviceId : Int) : Bool :=
  match deviceKey? gatewayId portId deviceId with
  | none => false
  | some key => database.isOpen && (database.devices.get key).any DeviceRow.active

def deviceDeleted (database : Database) (gatewayId portId : String) (deviceId : Int) : Bool :=
  match deviceKey? gatewayId portId deviceId with
  | none => false
  | some key => database.isOpen && (database.devices.get key).any DeviceRow.tombstoned

def queryDeviceType (database : Database) (gatewayId portId : String) (deviceId : Int) : String :=
  match deviceKey? gatewayId portId deviceId with
  | none => ""
  | some key =>
      match database.devices.get key with
      | some row => if database.isOpen && row.active then row.deviceType else ""
      | none => ""

/-- A row with the row of its state, as `queryDevices` returns them. -/
def deviceRecord (key : DeviceKey) (row : DeviceRow) (state : Option DeviceStatusRow) :
    DeviceRecord where
  factoryId := row.factoryId
  factoryName := row.factoryName
  areaId := row.areaId
  areaName := row.areaName
  gatewayId := key.gatewayId
  gatewayName := row.gatewayName
  portId := key.portId
  portName := row.portName
  deviceId := key.deviceId
  deviceName := row.deviceName
  deviceType := row.deviceType
  pollIntervalMs := row.pollIntervalMs
  expectTelemetry := row.expectTelemetry
  enabled := row.enabled
  status := (state.map DeviceStatusRow.status).getD "unknown"
  lastSeenMs := (state.map DeviceStatusRow.lastSeenMs).getD 0
  lastOfflineMs := (state.map DeviceStatusRow.lastOfflineMs).getD 0
  statusReason := (state.map DeviceStatusRow.statusReason).getD ""
  createTimeMs := row.createTimeMs
  updateTimeMs := max row.updateTimeMs ((state.map DeviceStatusRow.updateTimeMs).getD 0)

/-- The keys of the active rows. -/
def activeKeys (database : Database) : List DeviceKey :=
  ((database.devices.keepIf fun _ row => row.active).entries).map Sigma.fst

def queryDevices (database : Database) : List DeviceRecord :=
  if database.isOpen then
    ((database.devices.keepIf fun _ row => row.active).entries).map fun entry =>
      deviceRecord entry.1 entry.2 (database.deviceStatuses.get entry.1)
  else []

def deviceStatusRow (device : DeviceRecord) (old : Option DeviceStatusRow) : DeviceStatusRow where
  status := orElse device.status "unknown"
  lastSeenMs := match old with
    | some row => if row.lastSeenMs < device.lastSeenMs then device.lastSeenMs else row.lastSeenMs
    | none => device.lastSeenMs
  lastOfflineMs := device.lastOfflineMs
  statusReason := device.statusReason
  updateTimeMs := device.updateTimeMs

def putDeviceStatus (database : Database) (key : DeviceKey) (device : DeviceRecord) : Database :=
  { database with
    deviceStatuses := database.deviceStatuses.put key
      (deviceStatusRow device (database.deviceStatuses.get key)) }

/-- The row that `upsertDevice` writes; a row that was there keeps its time of creation. -/
def deviceRow (device : DeviceRecord) (old : Option DeviceRow) : DeviceRow :=
  let nowMs := if 0 < device.updateTimeMs then device.updateTimeMs else device.createTimeMs
  { factoryId := device.factoryId
    factoryName := device.factoryName
    areaId := device.areaId
    areaName := device.areaName
    gatewayName := device.gatewayName
    portName := device.portName
    deviceName := device.deviceName
    deviceType := device.deviceType
    pollIntervalMs := device.pollIntervalMs
    expectTelemetry := device.expectTelemetry
    enabled := device.enabled
    deleted := false
    deletedTimeMs := 0
    status := "active"
    createTimeMs := match old with
      | some row => row.createTimeMs
      | none => if 0 < device.createTimeMs then device.createTimeMs else nowMs
    updateTimeMs := nowMs }

def upsertDevice (database : Database) (device : DeviceRecord) (allowDeletedReactivate : Bool) :
    Database × Bool :=
  match device.key? with
  | none => (database, false)
  | some key =>
      if !database.isOpen ∨ device.deviceType = "" then (database, false)
      else if database.deviceDeleted device.gatewayId device.portId device.deviceId ∧
          !allowDeletedReactivate then (database, false)
      else database.transact (.device device) fun database =>
        { database with
          devices := database.devices.put key (deviceRow device (database.devices.get key)) }.putDeviceStatus
            key device

/-- The columns that `markDeviceDeleted` sets. -/
def markDeleted (nowMs : Int) (row : DeviceRow) : DeviceRow :=
  { row with
    deleted := true
    deletedTimeMs := nowMs
    status := "deleted"
    enabled := false
    updateTimeMs := nowMs }

/-- The columns that `reactivateDeletedDevice` sets. -/
def markActive (nowMs : Int) (row : DeviceRow) : DeviceRow :=
  { row with
    deleted := false
    deletedTimeMs := 0
    status := "active"
    enabled := true
    updateTimeMs := nowMs }

def reactivateDeletedDevice (database : Database) (nowMs : Int) (gatewayId portId : String)
    (deviceId : Int) : Database × Bool :=
  match deviceKey? gatewayId portId deviceId with
  | none => (database, false)
  | some key =>
      if !database.isOpen then (database, false)
      else database.transact (.deviceReactivated key) fun database =>
        { database with
          devices := database.devices.updateWhere (fun other _ => other = key) (markActive nowMs) }

/-- The rows of other tables that go with a deleted device or port. -/
def deleteRows (database : Database) (concerns : String -> String -> Int -> Bool) : Database :=
  { database with
    deviceStatuses := database.deviceStatuses.keepIf fun key _ =>
      !concerns key.gatewayId key.portId key.deviceId
    latestPoints := database.latestPoints.keepIf fun _ point =>
      !concerns point.site.gatewayId point.site.portId point.deviceId
    pointConfigs := database.pointConfigs.keepIf fun _ config =>
      !concerns config.gatewayId config.portId config.deviceId
    telemetryHistory := database.telemetryHistory.filter fun point =>
      !concerns point.site.gatewayId point.site.portId point.deviceId }

def deleteDeviceData (database : Database) (nowMs : Int) (gatewayId portId : String)
    (deviceId : Int) : Database × Bool :=
  match deviceKey? gatewayId portId deviceId with
  | none => (database, false)
  | some key =>
      if !database.isOpen then (database, false)
      else database.transact (.deviceDeleted key) fun database =>
        { database with
          devices := database.devices.updateWhere (fun other _ => other = key)
            (markDeleted nowMs) }.deleteRows fun gateway port device =>
              gateway = gatewayId && port = portId && device = deviceId

/-- The loop over `queryDevices` marks the active rows of the port. -/
def deleteMasterData (database : Database) (nowMs : Int) (gatewayId portId : String) :
    Database × Bool :=
  if !database.isOpen ∨ gatewayId = "" ∨ portId = "" then (database, false)
  else database.transact (.masterDeleted gatewayId portId) fun database =>
    { database with
      devices := database.devices.updateWhere
        (fun key row => row.active && key.gatewayId = gatewayId && key.portId = portId)
        (markDeleted nowMs) }.deleteRows fun gateway port _ => gateway = gatewayId && port = portId

def clearRuntimeData (database : Database) : Database × Bool :=
  if !database.isOpen then (database, false)
  else database.transact .runtimeCleared fun database =>
    { database with latestPoints := ∅, telemetryHistory := [] }

/-! ## Points -/

def pointConfigExists (database : Database) (gatewayId portId : String) (deviceId : Int)
    (pointKey : String) : Bool :=
  pointKey ≠ "" && database.deviceExists gatewayId portId deviceId &&
    database.pointConfigs.any fun _ config =>
      config.gatewayId = gatewayId && config.portId = portId && config.deviceId = deviceId &&
        config.pointKey = pointKey

def knowsConfig (database : Database) (config : PointConfig) : Bool :=
  database.deviceExists config.gatewayId config.portId config.deviceId

def savePointConfigs (database : Database) (configs : List PointConfig) : Database × Bool :=
  if !database.isOpen then (database, false)
  else if configs.isEmpty then (database, true)
  else database.transact (.pointConfigs configs) fun database =>
    { database with
      pointConfigs := Table.putAll PointConfig.pointId id
        (configs.filter fun config => config.pointId ≠ "" && database.knowsConfig config)
        database.pointConfigs }

/-- The state of the device of a point, as `updateDeviceOnlineFromTelemetry` builds it. -/
def onlineStatus (nowMs : Int) (point : TelemetryPoint) (old : Option DeviceStatusRow) :
    DeviceStatusRow :=
  let status := if point.valid then "online"
    else if point.errorMessage = "device_offline" then "offline" else "error"
  { status := status
    lastSeenMs := match old with
      | some row => if row.lastSeenMs < nowMs then nowMs else row.lastSeenMs
      | none => nowMs
    lastOfflineMs := if status = "offline" then nowMs else 0
    statusReason := if point.valid then "" else point.errorMessage
    updateTimeMs := nowMs }

def saveTelemetryPoint (nowMs : Int) (database : Database) (point : TelemetryPoint) : Database :=
  let stored := { database with
    latestPoints := database.latestPoints.put point.pointId point
    telemetryHistory := database.telemetryHistory ++ [point] }
  match deviceKey? point.site.gatewayId point.site.portId point.deviceId with
  | none => stored
  | some key =>
      { stored with
        deviceStatuses := stored.deviceStatuses.put key
          (onlineStatus nowMs point (stored.deviceStatuses.get key)) }

def saveTelemetryPoints (database : Database) (nowMs : Int) (points : List TelemetryPoint) :
    Database × Bool :=
  if !database.isOpen then (database, false)
  else if points.isEmpty then (database, true)
  else database.transact (.telemetry points) fun database =>
    let accepted := points.filter fun point => point.pointId ≠ "" &&
      database.deviceExists point.site.gatewayId point.site.portId point.deviceId
    let incoming : Table String TelemetryPoint := Table.putAll telemetryDeviceKey id accepted ∅
    let reports (point : TelemetryPoint) : Bool := incoming.any fun _ other =>
      other.site.gatewayId = point.site.gatewayId && other.site.portId = point.site.portId &&
        other.deviceId = point.deviceId
    accepted.foldl (saveTelemetryPoint nowMs)
      { database with latestPoints := database.latestPoints.keepIf fun _ point => !reports point }

/-! ## Gateways and ports -/

def upsertGatewayRegistry (database : Database) (registry : GatewayRegistry) : Database × Bool :=
  if !database.isOpen ∨ registry.gatewayId = "" then (database, false)
  else database.transact (.gatewayRegistry registry) fun database =>
    { database with
      gatewayRegistries := database.gatewayRegistries.put registry.gatewayId
        { registry with status := orElse registry.status "online" } }

def upsertGatewayStatus (database : Database) (gateway : GatewayStatus) : Database × Bool :=
  if !database.isOpen ∨ gateway.gatewayId = "" then (database, false)
  else database.transact (.gatewayStatus gateway) fun database =>
    { database with
      gatewayStatuses := database.gatewayStatuses.put gateway.gatewayId
        { gateway with status := orElse gateway.status "online" } }

def updateGatewayRegistryHeartbeat (database : Database) (nowMs : Int) (gatewayId status : String) :
    Database × Bool :=
  if !database.isOpen ∨ gatewayId = "" then (database, false)
  else database.transact (.registryHeartbeat gatewayId status) fun database =>
    let old := (database.gatewayRegistries.get gatewayId).getD ⟨gatewayId, "", "", "", "", "", 0, 0, 0⟩
    { database with
      gatewayRegistries := database.gatewayRegistries.put gatewayId
        { old with
          status := orElse status "online"
          lastHeartbeatTimeMs := nowMs
          updateTimeMs := nowMs } }

def updateGatewayHeartbeat (database : Database) (nowMs : Int) (gatewayId status : String) :
    Database × Bool :=
  if !database.isOpen ∨ gatewayId = "" then (database, false)
  else database.transact (.statusHeartbeat gatewayId status) fun database =>
    let old := (database.gatewayStatuses.get gatewayId).getD ⟨gatewayId, "", "", "", "", 0, 0, 0⟩
    { database with
      gatewayStatuses := database.gatewayStatuses.put gatewayId
        { old with
          status := orElse status "online"
          lastHeartbeatTimeMs := nowMs
          updateTimeMs := nowMs } }

def upsertGatewayPort (database : Database) (port : GatewayPort) : Database × Bool :=
  if !database.isOpen ∨ port.gatewayId = "" ∨ port.portId = "" then (database, false)
  else database.transact (.gatewayPort port) fun database =>
    { database with
      gatewayPorts := database.gatewayPorts.put (port.gatewayId, port.portId)
        { port with status := orElse port.status "connected" } }

/-- `saveAlarmEvent`; the table of alarms is only recorded in `committed`. -/
def saveAlarmEvent (database : Database) (event : AlarmEvent) : Database × Bool :=
  if !database.isOpen then (database, false)
  else database.transact (.alarm event) id

/-! ## Configuration snapshots -/

/-- The entry belongs to the gateway and has a key. -/
def ownEntry (gatewayId : String) (device : DeviceRecord) : Bool :=
  device.gatewayId = gatewayId && device.portId ≠ "" && 0 < device.deviceId

def ownPort (gatewayId : String) (port : GatewayPort) : Bool :=
  port.gatewayId = gatewayId && port.portId ≠ ""

/-- The entry of a snapshot, unless its device has been deleted. -/
def upsertSnapshotDevice (allowDeletedReactivate : Bool) (database : Database)
    (device : DeviceRecord) : Database × Bool :=
  if database.deviceDeleted device.gatewayId device.portId device.deviceId then (database, true)
  else database.upsertDevice device allowDeletedReactivate

/-- What the two snapshot functions share after their deletions. -/
def upsertSnapshotEntries (database : Database) (gatewayId : String) (snapshot : ConfigSnapshot)
    (allowDeletedReactivate : Bool) : Database × Bool :=
  let ports := database.each upsertGatewayPort (snapshot.ports.filter (ownPort gatewayId))
  let devices := ports.1.each (upsertSnapshotDevice allowDeletedReactivate)
    (snapshot.devices.filter (ownEntry gatewayId))
  let ok := devices.2 && ports.2
  if snapshot.pointConfigs.isEmpty then (devices.1, ok)
  else
    let points := devices.1.savePointConfigs (snapshot.pointConfigs.filter devices.1.knowsConfig)
    (points.1, points.2 && ok)

/-- A device of the gateway that a full snapshot does not list. -/
def missingFrom (gatewayId : String) (devices : List DeviceRecord) (key : DeviceKey) : Bool :=
  key.gatewayId = gatewayId && !(devices.filter (ownEntry gatewayId)).any fun device =>
    device.portId = key.portId && device.deviceId = key.deviceId

def upsertGatewayConfigSnapshot (database : Database) (nowMs : Int) (gatewayId : String)
    (snapshot : ConfigSnapshot) (fullSnapshot : Bool) : Database × Bool :=
  if !database.isOpen ∨ gatewayId = "" then (database, false)
  else
    let removed := if fullSnapshot then
        database.each
          (fun database key => database.deleteDeviceData nowMs key.gatewayId key.portId key.deviceId)
          (database.activeKeys.filter (missingFrom gatewayId snapshot.devices))
      else (database, true)
    let entries := removed.1.upsertSnapshotEntries gatewayId snapshot false
    (entries.1, entries.2 && removed.2)

def selectedKeys (gatewayId : String) (selectedDevices : List SyncSelectedDevice) : List DeviceKey :=
  selectedDevices.filterMap fun selected => deviceKey? gatewayId selected.portId selected.deviceId

def replaceSelectedDeviceConfig (database : Database) (gatewayId : String)
    (selectedDevices : List SyncSelectedDevice) (snapshot : ConfigSnapshot) : Database × Bool :=
  if !database.isOpen ∨ gatewayId = "" ∨ selectedDevices.isEmpty then (database, false)
  else
    let keys := selectedKeys gatewayId selectedDevices
    let selects (gateway port : String) (device : Int) : Bool := keys.any fun key =>
      key.gatewayId = gateway && key.portId = port && key.deviceId = device
    let cleared := database.transact (.selectionCleared keys) fun database =>
      { database with
        deviceStatuses := database.deviceStatuses.keepIf fun key _ => !keys.contains key
        pointConfigs := database.pointConfigs.keepIf fun _ config =>
          !selects config.gatewayId config.portId config.deviceId }
    if cleared.2 then cleared.1.upsertSnapshotEntries gatewayId snapshot true
    else (cleared.1, false)

end Database
end Pc
end Imx6Gateway
