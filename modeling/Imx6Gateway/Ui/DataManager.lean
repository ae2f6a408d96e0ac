import Imx6Gateway.Ui.DeviceModel

namespace Imx6Gateway
namespace Ui
namespace Realtime

open Library

/-!
# The two stores of the user interface

`DataManager` keeps the configuration of the devices in `DeviceManager` and
their data in a map of its own, and remembers which devices the user has
removed.  `UiStateStore` copies both stores into a mirror, from which the pages
are drawn.  Signals and the debug output are left out, and so are the gateways
and ports of `DeviceManager`, which no device depends on.
-/

/-! ## DeviceManager -/

namespace Devices

abbrev Member : Type := { node : DeviceNode // node.Identified }

def setDevices (devices : List Member) : Devices :=
  KeyedStore.empty.insertAll devices

def upsertDevice (store : Devices) (node : Member) : Devices :=
  match store.get node.1.key with
  | none => store.insert node
  | some oldNode => if node.1 = oldNode then store else store.insert node

/-- `slaveId`, as the removals compute it. -/
def slaveId (node : DeviceNode) : Int :=
  if 0 < node.slaveAddr then node.slaveAddr else node.deviceId

def matchesDevice (gatewayId portId : String) (deviceId : Int) (node : DeviceNode) : Bool :=
  node.gatewayId = gatewayId && node.port = portId && slaveId node = deviceId

def matchesMaster (gatewayId portId : String) (node : DeviceNode) : Bool :=
  node.gatewayId = gatewayId && node.port = portId

def removeDeviceData (store : Devices) (gatewayId portId : String) (deviceId : Int) : Devices :=
  store.keepIf fun node => !matchesDevice gatewayId portId deviceId node

def removeMasterData (store : Devices) (gatewayId portId : String) : Devices :=
  store.keepIf fun node => !matchesMaster gatewayId portId node

theorem keeps_online (online : Bool) :
    KeyedStore.Keeps DeviceNode.key DeviceNode.Identified fun node =>
      { node with online := online } :=
  fun _ identified => ⟨rfl, identified⟩

def updateDeviceOnline (store : Devices) (key : String) (online : Bool) : Devices :=
  store.update key (fun node => { node with online := online }) (keeps_online online)

def onlineDeviceCount (store : Devices) : Nat :=
  store.values.countP fun node => node.online

end Devices

/-! ## DataManager -/

abbrev RealtimeMap.Member : Type := { data : RealtimeDeviceData // data.node.Identified }

structure DataManager where
  devices : Devices
  realtime : RealtimeMap
  deletedDevices : Table String Int
  serviceOnline : Bool

/-- The text under which a removed device is remembered. -/
def deletedDeviceKey (gatewayId portId : String) (deviceId : Int) : String :=
  PlaceMarker.arg (gatewayId ++ "/" ++ portId ++ "/%3") (toString deviceId)

/-- A node of `DeviceManager` or of a message, with the state of the realtime record. -/
def overlaid (base live : DeviceNode) : DeviceNode :=
  { base with
    online := live.online
    status := live.status
    statusReason := live.statusReason
    lastUpdateTime := live.lastUpdateTime
    factoryId := if base.factoryId = "" then live.factoryId else base.factoryId
    factoryName := if base.factoryName = "" then live.factoryName else base.factoryName
    areaId := if base.areaId = "" then live.areaId else base.areaId
    areaName := if base.areaName = "" then live.areaName else base.areaName
    gatewayId := if base.gatewayId = "" then live.gatewayId else base.gatewayId
    gatewayName := if base.gatewayName = "" then live.gatewayName else base.gatewayName
    port := if base.port = "" then live.port else base.port
    masterName := if base.masterName = "" then live.masterName else base.masterName
    deviceName := if base.deviceName = "" then live.deviceName else base.deviceName
    deviceType := if base.deviceType = "" then live.deviceType else base.deviceType
    deviceId := if base.deviceId ≤ 0 then live.deviceId else base.deviceId
    slaveAddr := if base.slaveAddr ≤ 0 then live.slaveAddr else base.slaveAddr
    expectTelemetry := live.expectTelemetry }

/-- The identity of an identified node is never filled in. -/
theorem overlaid_identity {base : DeviceNode} (identified : base.Identified) (live : DeviceNode) :
    (overlaid base live).factoryId = base.factoryId ∧ (overlaid base live).areaId = base.areaId ∧
      (overlaid base live).gatewayId = base.gatewayId ∧ (overlaid base live).port = base.port ∧
      (overlaid base live).deviceId = base.deviceId :=
  ⟨if_neg identified.1, if_neg identified.2.1, if_neg identified.2.2.1,
    if_neg identified.2.2.2.1, if_neg (not_le.mpr identified.2.2.2.2)⟩

theorem overlaid_key {base : DeviceNode} (identified : base.Identified) (live : DeviceNode) :
    (overlaid base live).key = base.key := by
  have same := overlaid_identity identified live
  rw [DeviceNode.key, same.1, same.2.1, same.2.2.1, same.2.2.2.1, same.2.2.2.2, DeviceNode.key]

theorem overlaid_identified {base : DeviceNode} (identified : base.Identified) (live : DeviceNode) :
    (overlaid base live).Identified := by
  have same := overlaid_identity identified live
  rw [DeviceNode.Identified, same.1, same.2.1, same.2.2.1, same.2.2.2.1, same.2.2.2.2]
  exact identified

/-- Puts the state of a realtime record over the node with its key. -/
def overlay (nodes : Devices) (data : RealtimeMap.Member) : Devices :=
  match found : nodes.get data.1.node.key with
  | none => nodes.insert ⟨overlaid data.1.node data.1.node, overlaid_identified data.2 data.1.node⟩
  | some base =>
      nodes.insert ⟨overlaid base data.1.node,
        overlaid_identified (KeyedStore.proper_of_get found) data.1.node⟩

theorem RealtimeMap.identified {realtime : RealtimeMap} {own : String} {data : RealtimeDeviceData}
    (found : realtime.get own = some data) : data.node.Identified :=
  (realtime.filed own data found).2

namespace DataManager

def start : DataManager :=
  ⟨KeyedStore.empty, KeyedStore.empty, ∅, true⟩

def deviceTreeSnapshot (manager : DataManager) : List DeviceNode :=
  (manager.realtime.members.foldl overlay manager.devices).values

def allRealtimeData (manager : DataManager) : List RealtimeDeviceData :=
  manager.realtime.values

/-! ### Removed devices -/

def isDeletedDevice (manager : DataManager) (nowMs : Int) (gatewayId portId : String)
    (deviceId : Int) : Bool :=
  match manager.deletedDevices.get (deletedDeviceKey gatewayId portId deviceId) with
  | none => false
  | some expiresAt => expiresAt < 0 || nowMs < expiresAt

def isDeleted (manager : DataManager) (nowMs : Int) (node : DeviceNode) : Bool :=
  manager.isDeletedDevice nowMs node.gatewayId node.port node.deviceId

/-- `rememberDeletedDeviceLocked`, on the map of the removed devices. -/
def rememberDeletedDevice (nowMs : Int) (gatewayId portId : String)
    (deletedDevices : Table String Int) (deviceId : Int) : Table String Int :=
  if gatewayId = "" ∨ portId = "" ∨ deviceId ≤ 0 then deletedDevices
  else deletedDevices.put (deletedDeviceKey gatewayId portId deviceId) (-nowMs)

def removeDeviceData (manager : DataManager) (nowMs : Int) (gatewayId portId : String)
    (deviceId : Int) : DataManager :=
  { manager with
    devices := Devices.removeDeviceData manager.devices gatewayId portId deviceId
    deletedDevices :=
      rememberDeletedDevice nowMs gatewayId portId manager.deletedDevices deviceId
    realtime := manager.realtime.keepIf fun data =>
      !Devices.matchesDevice gatewayId portId deviceId data.node }

def removeMasterData (manager : DataManager) (nowMs : Int) (gatewayId portId : String) :
    DataManager :=
  let known := manager.realtime.values.filter fun data =>
    Devices.matchesMaster gatewayId portId data.node
  { manager with
    devices := Devices.removeMasterData manager.devices gatewayId portId
    deletedDevices := (known.map fun data => data.node.deviceId).foldl
      (rememberDeletedDevice nowMs gatewayId portId) manager.deletedDevices
    realtime := manager.realtime.keepIf fun data =>
      !Devices.matchesMaster gatewayId portId data.node }

def forgetRemovedDevice (manager : DataManager) (gatewayId portId : String) (deviceId : Int) :
    DataManager :=
  { manager with
    deletedDevices := AList.erase (deletedDeviceKey gatewayId portId deviceId)
      manager.deletedDevices }

/-- The alarms, which are cleared as well, are no part of the model. -/
def clearRuntimeData (manager : DataManager) : DataManager :=
  { manager with realtime := KeyedStore.empty }

/-! ### The age of the data -/

theorem keeps_refreshed (change : RealtimeDeviceData -> RealtimeDeviceData)
    (same : forall data, SameDevice data (change data)) :
    KeyedStore.Keeps (fun data : RealtimeDeviceData => data.node.key)
      (fun data => data.node.Identified) change :=
  fun data identified => ⟨(same data).key, (same data).identified identified⟩

/-- What `refreshOfflineStates` makes of a record. -/
def refreshed (nowMs timeoutMs : Int) (online : Bool) (data : RealtimeDeviceData) :
    RealtimeDeviceData :=
  let data := { data with node := { data.node with online := online } }
  if online then data
  else
    let ageMs := if 0 < data.timestamp then nowMs - data.timestamp else timeoutMs + 1
    let dataState := if kRealtimeOfflineMs < ageMs then "offline" else "stale"
    { data with
      dataState := dataState
      statusLevel := dataState
      statusText := if dataState = "offline" then "设备离线，保留最后值" else "旧数据 / 数据过期"
      valid := false }

theorem refreshed_same (nowMs timeoutMs : Int) (online : Bool) (data : RealtimeDeviceData) :
    SameDevice data (refreshed nowMs timeoutMs online data) := by
  cases online <;> exact ⟨rfl, rfl, rfl, rfl, rfl, rfl, rfl, rfl, rfl⟩

/-- A device is online if its last update is recent. -/
def recentlyUpdated (nowMs timeoutMs : Int) (node : DeviceNode) : Bool :=
  0 < node.lastUpdateTime && nowMs - node.lastUpdateTime ≤ timeoutMs

/-- The body of the loop of `refreshOfflineStates`. -/
def refreshDevice (nowMs timeoutMs : Int) (manager : DataManager) (device : Devices.Member) :
    DataManager :=
  let online := recentlyUpdated nowMs timeoutMs device.1
  if !device.1.expectTelemetry then manager
  else if device.1.online = online then manager
  else
    { manager with
      devices := manager.devices.updateDeviceOnline device.1.key online
      realtime := manager.realtime.update device.1.key (refreshed nowMs timeoutMs online)
        (keeps_refreshed _ (refreshed_same nowMs timeoutMs online)) }

def refreshOfflineStates (manager : DataManager) (nowMs timeoutMs : Int) : DataManager :=
  manager.devices.members.foldl (refreshDevice nowMs timeoutMs) manager

/-! ### The service -/

def nodeOffline (reason : String) (node : DeviceNode) : DeviceNode :=
  { node with
    online := false
    status := reason
    statusReason := reason }

theorem nodeOffline_identified (reason : String) {node : DeviceNode} (identified : node.Identified) :
    (nodeOffline reason node).Identified :=
  identified

def offlineMember (reason : String) (node : Devices.Member) : Devices.Member :=
  ⟨nodeOffline reason node.1, nodeOffline_identified reason node.2⟩

/-- Unlike for a node, the reason of the status stays. -/
def dataOffline (reason : String) (data : RealtimeDeviceData) : RealtimeDeviceData :=
  { data with
    node := { data.node with online := false, status := reason }
    serviceOffline := true
    dataState := "offline"
    statusLevel := "offline"
    statusText := if reason = "service_offline" then "Pc_data 服务离线，保留最后值"
      else "设备离线，保留最后值"
    valid := false
    errorMessage := if data.errorMessage = "" then reason else data.errorMessage }

theorem keeps_dataOffline (reason : String) :
    KeyedStore.Keeps (fun data : RealtimeDeviceData => data.node.key)
      (fun data => data.node.Identified) (dataOffline reason) :=
  fun _ identified => ⟨rfl, identified⟩

def markAllDevicesOffline (manager : DataManager) (reason : String) : DataManager where
  serviceOnline := false
  devices := Devices.setDevices (manager.devices.members.map (offlineMember reason))
  realtime := manager.realtime.updateWhere (fun _ => true) (dataOffline reason)
    (keeps_dataOffline reason)
  deletedDevices := manager.deletedDevices

/-! ### The latest points -/

/-- Data that are too old to replace those of the record. -/
def staleDrop (old : Option RealtimeDeviceData) (data : RealtimeDeviceData) : Bool :=
  match old with
  | none => false
  | some old =>
      old.points ≠ [] && decide (0 < old.node.lastUpdateTime) &&
        decide (0 < data.node.lastUpdateTime) &&
        decide (data.node.lastUpdateTime + kRealtimeStaleToleranceMs < old.node.lastUpdateTime)

/-- The manager with the data, and whether they have been taken. -/
def upsertRealtimeData (nowMs : Int) (manager : DataManager) (data : RealtimeMap.Member) :
    DataManager × Bool :=
  if manager.isDeleted nowMs data.1.node then (manager, false)
  else if staleDrop (manager.realtime.get data.1.node.key) data.1 then (manager, false)
  else
    ({ manager with
        realtime := manager.realtime.insert data
        devices := Devices.updateDeviceOnline
          (manager.devices.upsertDevice ⟨data.1.node, data.2⟩) data.1.node.key data.1.node.online },
      true)

/-- The body of the loop of `onLatestPointsMessage`. -/
def takeLatest (nowMs : Int) (manager : DataManager) (data : RealtimeMap.Member) : DataManager :=
  if manager.isDeleted nowMs data.1.node then manager
  else (manager.upsertRealtimeData nowMs data).1

def onLatestPointsMessage (manager : DataManager) (nowMs : Int) (object : Json) : DataManager :=
  (parseLatestPoints nowMs object).members.foldl (takeLatest nowMs)
    { manager with serviceOnline := true }

/-! ### The devices -/

/-- The record of a device without points, as the message describes it. -/
def snapshotStatus (node : DeviceNode) (data : RealtimeDeviceData) : RealtimeDeviceData :=
  let data :=
    if node.status = "offline" then
      { data with statusText := "设备离线", statusLevel := "offline", dataState := "offline" }
    else if node.status = "online" then
      { data with statusText := "正常", statusLevel := "normal", dataState := "normal" }
    else if node.status = "error" then
      { data with
        statusText := if node.statusReason = "" then "设备异常" else node.statusReason
        statusLevel := "error"
        dataState := "invalid" }
    else { data with statusText := "未知", statusLevel := "unknown", dataState := "unknown" }
  { data with timestamp := node.lastUpdateTime }

/-- The record of a listed device.  With points it keeps its own state. -/
def snapshotData (data : RealtimeDeviceData) (node : DeviceNode) : RealtimeDeviceData :=
  if data.points ≠ [] then
    { data with
      node :=
        { node with
          online := data.node.online
          status := data.node.status
          statusReason := data.node.statusReason
          lastUpdateTime := data.node.lastUpdateTime } }
  else snapshotStatus node { data with node := node }

theorem snapshotData_identified (data : RealtimeDeviceData) {node : DeviceNode}
    (identified : node.Identified) :
    (snapshotData data node).node.key = node.key ∧ (snapshotData data node).node.Identified := by
  unfold snapshotData snapshotStatus
  dsimp only
  split_ifs <;> exact ⟨rfl, identified⟩

def enterListed (realtime : RealtimeMap) (node : Devices.Member) : RealtimeMap :=
  realtime.insert ⟨snapshotData ((realtime.get node.1.key).getD {}) node.1,
    (snapshotData_identified _ node.2).2⟩

def onDevicesSnapshotMessage (manager : DataManager) (nowMs : Int) (object : Json) : DataManager :=
  let devices := (parseDevicesSnapshot object).keepIf fun node => !manager.isDeleted nowMs node
  let mergedDevices := manager.realtime.members.foldl overlay
    (manager.devices.insertAll devices.members)
  let kept := manager.realtime.keepIf fun data => !manager.isDeleted nowMs data.node
  { manager with
    serviceOnline := true
    devices := Devices.setDevices mergedDevices.members
    realtime := devices.members.foldl enterListed kept }

end DataManager

/-! ## What the functions make of one device -/

theorem get_upsertDevice (store : Devices) (node : Devices.Member) (own : String) :
    (Devices.upsertDevice store node).get own =
      if own = node.1.key then some node.1 else store.get own := by
  unfold Devices.upsertDevice
  split
  · exact store.get_insert node own
  · rename_i oldNode found
    split
    · rename_i same
      rw [← same] at found
      split
      · rename_i here
        rw [here]
        exact found
      · rfl
    · exact store.get_insert node own

theorem get_updateDeviceOnline (store : Devices) (key : String) (online : Bool) (own : String) :
    (Devices.updateDeviceOnline store key online).get own =
      if own = key then (store.get own).map fun node => { node with online := online }
      else store.get own :=
  store.get_update key own _ _

theorem get_overlay (nodes : Devices) (data : RealtimeMap.Member) (own : String) :
    (overlay nodes data).get own =
      if own = data.1.node.key then
        some (overlaid ((nodes.get own).getD data.1.node) data.1.node)
      else nodes.get own := by
  unfold overlay
  split
  · rename_i absent
    rw [KeyedStore.get_insert, overlaid_key data.2]
    split
    · rename_i here
      rw [here, absent]
      rfl
    · rfl
  · rename_i base found
    rw [KeyedStore.get_insert, overlaid_key (KeyedStore.proper_of_get found),
      KeyedStore.key_of_get found]
    split
    · rename_i here
      change some (overlaid base data.1.node) = _
      rw [here, found]
      rfl
    · rfl

theorem get_foldl_overlay (realtime : RealtimeMap) (nodes : Devices) (own : String) :
    (realtime.members.foldl overlay nodes).get own =
      match realtime.get own with
      | none => nodes.get own
      | some data => some (overlaid ((nodes.get own).getD data.node) data.node) := by
  rw [KeyedStore.foldl_members overlay KeyedStore.get
    (fun node data => some (overlaid (node.getD data.node) data.node))]
  · cases realtime.get own with
    | none => rfl
    | some data => rfl
  · intro nodes data
    rw [get_overlay, if_pos rfl]
  · intro nodes data own different
    rw [get_overlay, if_neg different]

namespace DataManager

/-- What the manager knows under a key, and which devices are removed. -/
def view (manager : DataManager) (own : String) :
    Option DeviceNode × Option RealtimeDeviceData × Table String Int :=
  (manager.devices.get own, manager.realtime.get own, manager.deletedDevices)

section Seen

variable {manager : DataManager} {own : String}
  {seen : Option DeviceNode × Option RealtimeDeviceData × Table String Int}

theorem devices_of_view (here : manager.view own = seen) : manager.devices.get own = seen.1 :=
  congrArg Prod.fst here

theorem realtime_of_view (here : manager.view own = seen) : manager.realtime.get own = seen.2.1 :=
  congrArg (fun seen => seen.2.1) here

theorem deletedDevices_of_view (here : manager.view own = seen) :
    manager.deletedDevices = seen.2.2 :=
  congrArg (fun seen => seen.2.2) here

end Seen

/-- The data of a message that `upsertRealtimeData` takes. -/
def takes (nowMs : Int) (deletedDevices : Table String Int) (old : Option RealtimeDeviceData)
    (data : RealtimeDeviceData) : Bool :=
  !(match deletedDevices.get
        (deletedDeviceKey data.node.gatewayId data.node.port data.node.deviceId) with
    | none => false
    | some expiresAt => expiresAt < 0 || nowMs < expiresAt) && !staleDrop old data

theorem takes_eq (manager : DataManager) (nowMs : Int) (data : RealtimeDeviceData) :
    takes nowMs manager.deletedDevices (manager.realtime.get data.node.key) data =
      (!manager.isDeleted nowMs data.node &&
        !staleDrop (manager.realtime.get data.node.key) data) := rfl

theorem takeLatest_eq (manager : DataManager) (nowMs : Int) (data : RealtimeMap.Member) :
    takeLatest nowMs manager data =
      if takes nowMs manager.deletedDevices (manager.realtime.get data.1.node.key) data.1 then
        { manager with
          realtime := manager.realtime.insert data
          devices := Devices.updateDeviceOnline
            (manager.devices.upsertDevice ⟨data.1.node, data.2⟩) data.1.node.key
            data.1.node.online }
      else manager := by
  rw [takes_eq, takeLatest]
  cases deleted : manager.isDeleted nowMs data.1.node with
  | true => rfl
  | false =>
      rw [if_neg Bool.false_ne_true, upsertRealtimeData, deleted, if_neg Bool.false_ne_true]
      cases staleDrop (manager.realtime.get data.1.node.key) data.1 with
      | true => rfl
      | false => rfl

theorem view_takeLatest_self (manager : DataManager) (nowMs : Int) (data : RealtimeMap.Member) :
    (takeLatest nowMs manager data).view data.1.node.key =
      if takes nowMs manager.deletedDevices (manager.realtime.get data.1.node.key) data.1 then
        (some data.1.node, some data.1, manager.deletedDevices)
      else manager.view data.1.node.key := by
  rw [takeLatest_eq]
  split
  · unfold view
    rw [get_updateDeviceOnline, if_pos rfl, get_upsertDevice, if_pos rfl]
    dsimp only
    rw [KeyedStore.get_insert, if_pos rfl]
    rfl
  · rfl

theorem view_takeLatest_ne (manager : DataManager) (nowMs : Int) (data : RealtimeMap.Member)
    {own : String} (different : own ≠ data.1.node.key) :
    (takeLatest nowMs manager data).view own = manager.view own := by
  rw [takeLatest_eq]
  split
  · unfold view
    rw [get_updateDeviceOnline, if_neg different, get_upsertDevice, if_neg different]
    dsimp only
    rw [KeyedStore.get_insert, if_neg different]
  · rfl

/-- The latest points replace a device by what is read of it, if that is taken. -/
theorem view_onLatestPointsMessage (manager : DataManager) (nowMs : Int) (object : Json)
    (own : String) :
    (manager.onLatestPointsMessage nowMs object).view own =
      match (parseLatestPoints nowMs object).get own with
      | none => manager.view own
      | some data =>
          if takes nowMs manager.deletedDevices (manager.realtime.get own) data then
            (some data.node, some data, manager.deletedDevices)
          else manager.view own := by
  rw [onLatestPointsMessage, KeyedStore.foldl_members (takeLatest nowMs) view
    (fun before data => if takes nowMs before.2.2 before.2.1 data then
      (some data.node, some data, before.2.2) else before)]
  · cases (parseLatestPoints nowMs object).get own with
    | none => rfl
    | some data => rfl
  · exact fun manager data => manager.view_takeLatest_self nowMs data
  · exact fun manager data own different => manager.view_takeLatest_ne nowMs data different

/-- `refreshOfflineStates` changes the state of the node. -/
def needsRefresh (nowMs timeoutMs : Int) (node : DeviceNode) : Bool :=
  node.expectTelemetry && node.online ≠ recentlyUpdated nowMs timeoutMs node

/-- The view of a device in `DeviceManager` after its age has been looked at. -/
def refreshedView (nowMs timeoutMs : Int)
    (before : Option DeviceNode × Option RealtimeDeviceData × Table String Int)
    (node : DeviceNode) : Option DeviceNode × Option RealtimeDeviceData × Table String Int :=
  let online := recentlyUpdated nowMs timeoutMs node
  if needsRefresh nowMs timeoutMs node then
    (before.1.map fun node => { node with online := online },
      before.2.1.map (refreshed nowMs timeoutMs online), before.2.2)
  else before

theorem refreshDevice_eq (nowMs timeoutMs : Int) (manager : DataManager) (device : Devices.Member) :
    refreshDevice nowMs timeoutMs manager device =
      if needsRefresh nowMs timeoutMs device.1 then
        { manager with
          devices := manager.devices.updateDeviceOnline device.1.key
            (recentlyUpdated nowMs timeoutMs device.1)
          realtime := manager.realtime.update device.1.key
            (refreshed nowMs timeoutMs (recentlyUpdated nowMs timeoutMs device.1))
            (keeps_refreshed _ (refreshed_same nowMs timeoutMs _)) }
      else manager := by
  unfold refreshDevice needsRefresh
  dsimp only
  cases device.1.expectTelemetry with
  | false => rfl
  | true =>
      by_cases same : device.1.online = recentlyUpdated nowMs timeoutMs device.1
      · rw [Bool.not_true, if_neg Bool.false_ne_true, if_pos same, if_neg (by simp [same])]
      · rw [Bool.not_true, if_neg Bool.false_ne_true, if_neg same, if_pos (by simp [same])]

theorem view_refreshOfflineStates (manager : DataManager) (nowMs timeoutMs : Int) (own : String) :
    (manager.refreshOfflineStates nowMs timeoutMs).view own =
      match manager.devices.get own with
      | none => manager.view own
      | some node => refreshedView nowMs timeoutMs (manager.view own) node := by
  rw [refreshOfflineStates, KeyedStore.foldl_members (refreshDevice nowMs timeoutMs) view
    (refreshedView nowMs timeoutMs)]
  · cases manager.devices.get own with
    | none => rfl
    | some node => rfl
  · intro manager device
    rw [refreshDevice_eq, refreshedView]
    split
    · unfold view
      rw [get_updateDeviceOnline, if_pos rfl, KeyedStore.get_update, if_pos rfl]
    · rfl
  · intro manager device own different
    rw [refreshDevice_eq]
    split
    · unfold view
      rw [get_updateDeviceOnline, if_neg different, KeyedStore.get_update, if_neg different]
    · rfl

theorem deletedDevices_onLatestPointsMessage (manager : DataManager) (nowMs : Int)
    (object : Json) :
    (manager.onLatestPointsMessage nowMs object).deletedDevices = manager.deletedDevices := by
  refine (deletedDevices_of_view (manager.view_onLatestPointsMessage nowMs object "")).trans ?_
  split
  · rfl
  · split
    · rfl
    · rfl

theorem deletedDevices_refreshOfflineStates (manager : DataManager) (nowMs timeoutMs : Int) :
    (manager.refreshOfflineStates nowMs timeoutMs).deletedDevices = manager.deletedDevices := by
  refine (deletedDevices_of_view (manager.view_refreshOfflineStates nowMs timeoutMs "")).trans ?_
  split
  · rfl
  · unfold refreshedView
    dsimp only
    split
    · rfl
    · rfl

theorem view_markAllDevicesOffline (manager : DataManager) (reason own : String) :
    (manager.markAllDevicesOffline reason).view own =
      ((manager.devices.get own).map (nodeOffline reason),
        (manager.realtime.get own).map (dataOffline reason), manager.deletedDevices) := by
  have nodes : (Devices.setDevices (manager.devices.members.map (offlineMember reason))).get own =
      (manager.devices.get own).map (nodeOffline reason) := by
    rw [Devices.setDevices, KeyedStore.insertAll, List.foldl_map,
      KeyedStore.foldl_members _ KeyedStore.get (fun _ node => some (nodeOffline reason node))
        (fun store node => store.get_insert_self (offlineMember reason node))
        (fun store node own different =>
          @KeyedStore.get_insert_ne _ _ _ _ _ store (offlineMember reason node) own different),
      KeyedStore.get_empty]
    cases manager.devices.get own with
    | none => rfl
    | some node => rfl
  have records := manager.realtime.get_updateWhere (fun _ => true) (dataOffline reason)
    (keeps_dataOffline reason) own
  unfold view markAllDevicesOffline
  dsimp only
  rw [nodes, records]
  rfl

/-- The listed device under a key, unless it is removed. -/
def listed (manager : DataManager) (nowMs : Int) (object : Json) (own : String) :
    Option DeviceNode :=
  ((parseDevicesSnapshot object).get own).filter fun node => !manager.isDeleted nowMs node

theorem get_enterListed (devices : Devices) (realtime : RealtimeMap) (own : String) :
    (devices.members.foldl enterListed realtime).get own =
      match devices.get own with
      | none => realtime.get own
      | some node => some (snapshotData ((realtime.get own).getD {}) node) := by
  rw [KeyedStore.foldl_members enterListed KeyedStore.get
    (fun data node => some (snapshotData (data.getD {}) node))]
  · cases devices.get own with
    | none => rfl
    | some node => rfl
  · intro realtime node
    rw [enterListed, KeyedStore.get_insert, (snapshotData_identified _ node.2).1, if_pos rfl]
  · intro realtime node own different
    rw [enterListed, KeyedStore.get_insert, (snapshotData_identified _ node.2).1,
      if_neg different]

theorem devices_onDevicesSnapshotMessage (manager : DataManager) (nowMs : Int) (object : Json)
    (own : String) :
    (manager.onDevicesSnapshotMessage nowMs object).devices.get own =
      match manager.realtime.get own with
      | none => (manager.listed nowMs object own).or (manager.devices.get own)
      | some data => some (overlaid
          (((manager.listed nowMs object own).or (manager.devices.get own)).getD data.node)
          data.node) := by
  rw [onDevicesSnapshotMessage]
  dsimp only
  rw [Devices.setDevices, KeyedStore.get_insertAll_members, KeyedStore.get_empty, Option.or_none,
    get_foldl_overlay, KeyedStore.get_insertAll_members, KeyedStore.get_keepIf]
  rfl

theorem realtime_onDevicesSnapshotMessage (manager : DataManager) (nowMs : Int) (object : Json)
    (own : String) :
    (manager.onDevicesSnapshotMessage nowMs object).realtime.get own =
      match manager.listed nowMs object own with
      | none => (manager.realtime.get own).filter fun data => !manager.isDeleted nowMs data.node
      | some node => some (snapshotData
          (((manager.realtime.get own).filter fun data =>
            !manager.isDeleted nowMs data.node).getD {}) node) := by
  rw [onDevicesSnapshotMessage]
  dsimp only
  rw [get_enterListed, KeyedStore.get_keepIf, KeyedStore.get_keepIf]
  rfl

end DataManager
end Realtime
end Ui
end Imx6Gateway
