import Imx6Gateway.Library.Transition
import Imx6Gateway.Ui.DataManager

namespace Imx6Gateway
namespace Ui
namespace Realtime

open Library

/-!
# The mirror of the two stores

`UiStateStore` copies both stores into one state for each device, with the
online flag of the realtime record and a word for its lifecycle.  A device
counts as online in the mirror if either says so, and in `DeviceManager` if its
own flag does.
-/

structure DeviceState where
  node : DeviceNode := {}
  realtime : RealtimeDeviceData := {}
  lifecycleState : String := ""
  lastMutationSource : String := ""
  lastStateUpdateMs : Int := 0
deriving DecidableEq

abbrev Mirror : Type :=
  KeyedStore (fun state : DeviceState => state.node.key) fun state => state.node.Identified

abbrev Mirror.Member : Type := { state : DeviceState // state.node.Identified }

theorem Mirror.identified {mirror : Mirror} {own : String} {state : DeviceState}
    (found : mirror.get own = some state) : state.node.Identified :=
  (mirror.filed own state found).2

theorem Mirror.key {mirror : Mirror} {own : String} {state : DeviceState}
    (found : mirror.get own = some state) : state.node.key = own :=
  (mirror.filed own state found).1

def lifecycleFor (state : DeviceState) : String :=
  if state.realtime.serviceOffline || state.node.status = "service_offline" then "service_offline"
  else if state.realtime.dataState = "offline" ∨ state.node.status = "offline" then "offline"
  else if state.realtime.dataState = "stale" ∨ state.node.status = "stale" then "stale"
  else if state.node.online || state.node.status = "online" then "online"
  else if state.node.status ≠ "" then state.node.status
  else "unknown"

/-- The state of a device of `DeviceManager`, before the realtime records. -/
def nodeState (source : String) (nowMs : Int) (old : DeviceState) (node : DeviceNode) :
    DeviceState :=
  { old with
    node := node
    lastMutationSource := source
    lastStateUpdateMs := nowMs }

/-- The node of a state that has one, with the state of the realtime record. -/
def mirroredNode (old : DeviceState) (live : DeviceNode) : DeviceNode :=
  if old.node.Identified then
    { old.node with
      online := live.online
      status := live.status
      statusReason := live.statusReason
      lastUpdateTime := live.lastUpdateTime }
  else live

theorem mirroredNode_identified (old : DeviceState) {live : DeviceNode}
    (identified : live.Identified) : (mirroredNode old live).Identified := by
  unfold mirroredNode
  split
  · rename_i named
    exact named
  · exact identified

def realtimeState (source : String) (nowMs : Int) (old : DeviceState)
    (realtime : RealtimeDeviceData) : DeviceState :=
  let state : DeviceState :=
    { old with
      realtime := realtime
      node := mirroredNode old realtime.node
      lastMutationSource := source
      lastStateUpdateMs := nowMs }
  { state with lifecycleState := lifecycleFor state }

def enterNode (mirror : Mirror) (source : String) (nowMs : Int) (next : Mirror)
    (node : Devices.Member) : Mirror :=
  next.insert ⟨nodeState source nowMs ((mirror.get node.1.key).getD {}) node.1, node.2⟩

def enterRealtime (mirror : Mirror) (source : String) (nowMs : Int) (next : Mirror)
    (realtime : RealtimeMap.Member) : Mirror :=
  let old := ((next.get realtime.1.node.key).or (mirror.get realtime.1.node.key)).getD {}
  next.insert ⟨realtimeState source nowMs old realtime.1, mirroredNode_identified old realtime.2⟩

def withLifecycle (state : DeviceState) : DeviceState :=
  { state with lifecycleState := lifecycleFor state }

theorem keeps_withLifecycle :
    KeyedStore.Keeps (fun state : DeviceState => state.node.key)
      (fun state => state.node.Identified) withLifecycle :=
  fun _ identified => ⟨rfl, identified⟩

def rebuildStateMirror (manager : DataManager) (mirror : Mirror) (source : String) (nowMs : Int) :
    Mirror :=
  let nodes := manager.devices.members.foldl (enterNode mirror source nowMs) KeyedStore.empty
  let next := manager.realtime.members.foldl (enterRealtime mirror source nowMs) nodes
  next.updateWhere (fun state => state.lifecycleState = "") withLifecycle keeps_withLifecycle

/-- A state that counts as online. -/
def DeviceState.countsOnline (state : DeviceState) : Bool :=
  state.lifecycleState = "online" || state.node.online

def Mirror.onlineDeviceCount (mirror : Mirror) : Nat :=
  mirror.values.countP DeviceState.countsOnline

/-- What changes the stores, and the rebuilding of the mirror. -/
inductive StoreEvent where
  | latestPoints (nowMs : Int) (message : Json)
  | devicesSnapshot (nowMs : Int) (message : Json)
  | markAllDevicesOffline (reason : String)
  | refreshOfflineStates (nowMs timeoutMs : Int)
  | removeDeviceData (nowMs : Int) (gatewayId portId : String) (deviceId : Int)
  | removeMasterData (nowMs : Int) (gatewayId portId : String)
  | rebuildStateMirror (source : String) (nowMs : Int)

structure UiStores where
  manager : DataManager
  mirror : Mirror

namespace UiStores

def start : UiStores :=
  ⟨DataManager.start, KeyedStore.empty⟩

def step (stores : UiStores) : StoreEvent -> UiStores
  | .latestPoints nowMs message =>
      { stores with manager := stores.manager.onLatestPointsMessage nowMs message }
  | .devicesSnapshot nowMs message =>
      { stores with manager := stores.manager.onDevicesSnapshotMessage nowMs message }
  | .markAllDevicesOffline reason =>
      { stores with manager := stores.manager.markAllDevicesOffline reason }
  | .refreshOfflineStates nowMs timeoutMs =>
      { stores with manager := stores.manager.refreshOfflineStates nowMs timeoutMs }
  | .removeDeviceData nowMs gatewayId portId deviceId =>
      { stores with manager := stores.manager.removeDeviceData nowMs gatewayId portId deviceId }
  | .removeMasterData nowMs gatewayId portId =>
      { stores with manager := stores.manager.removeMasterData nowMs gatewayId portId }
  | .rebuildStateMirror source nowMs =>
      { stores with
        mirror := Realtime.rebuildStateMirror stores.manager stores.mirror source nowMs }

end UiStores

def storeSystem : TransitionSystem UiStores StoreEvent where
  initial := UiStores.start
  step := UiStores.step

/-- The three copies agree on every device of both stores, and on the count. -/
structure Coherent (stores : UiStores) : Prop where
  online : forall own node data, stores.manager.devices.get own = some node ->
    stores.manager.realtime.get own = some data ->
    exists state, stores.mirror.get own = some state ∧ data.node.online = node.online ∧
      state.node.online = node.online
  count : stores.mirror.onlineDeviceCount = Devices.onlineDeviceCount stores.manager.devices

/-- No fresh data with a wrong checksum are taken.  A snapshot lists no device
without points whose flag in the realtime map is the other one, and finds no
removed device in that map. -/
def MirrorCondition (stores : UiStores) : StoreEvent -> Prop
  | .latestPoints nowMs message =>
      forall own data, (parseLatestPoints nowMs message).get own = some data ->
        DataManager.takes nowMs stores.manager.deletedDevices (stores.manager.realtime.get own)
          data = true ->
        answersFreshly nowMs data -> ¬ checksumError data
  | .devicesSnapshot nowMs message =>
      forall own data, stores.manager.realtime.get own = some data ->
        stores.manager.isDeleted nowMs data.node = false ∧
          forall node, stores.manager.listed nowMs message own = some node -> data.points = [] ->
            node.online = data.node.online
  | _ => True

/-! ## The two stores -/

/-- A record whose lifecycle is online is online. -/
def Honest (data : RealtimeDeviceData) : Prop :=
  data.serviceOffline = false -> data.node.status = "online" -> data.dataState ≠ "offline" ->
    data.dataState ≠ "stale" -> data.node.online = true

/-- The entries of one device in the two stores. -/
structure Twins (node : DeviceNode) (data : RealtimeDeviceData) : Prop where
  online : node.online = data.node.online
  gatewayId : node.gatewayId = data.node.gatewayId
  port : node.port = data.node.port
  slaveId : Devices.slaveId node = Devices.slaveId data.node
  deviceId : node.deviceId = data.node.deviceId
  honest : Honest data

/-- Both stores have the device, or neither has. -/
def Agree (devices : Option DeviceNode) (realtime : Option RealtimeDeviceData) : Prop :=
  match devices, realtime with
  | none, none => True
  | some node, some data => Twins node data
  | _, _ => False

theorem agree_none_left {realtime : Option RealtimeDeviceData} (agree : Agree none realtime) :
    realtime = none := by
  cases realtime with
  | none => rfl
  | some data => exact agree.elim

theorem agree_some_left {node : DeviceNode} {realtime : Option RealtimeDeviceData}
    (agree : Agree (some node) realtime) :
    exists data, realtime = some data ∧ Twins node data := by
  cases realtime with
  | none => exact agree.elim
  | some data => exact ⟨data, rfl, agree⟩

theorem twins_latest {nowMs : Int} {message : Json} {own : String} {data : RealtimeDeviceData}
    (read : (parseLatestPoints nowMs message).get own = some data)
    (checked : answersFreshly nowMs data -> ¬ checksumError data) : Twins data.node data where
  online := rfl
  gatewayId := rfl
  port := rfl
  slaveId := rfl
  deviceId := rfl
  honest := by
    intro _ online _ _
    rcases parseLatestPoints_built read with ⟨group, rfl⟩
    have spec := buildRealtimeDeviceData_spec nowMs group
    have fresh := spec.1.mp online
    exact spec.2.mpr ⟨fresh, checked fresh⟩

/-- A row says that a device is online by its status. -/
theorem online_of_listed {manager : DataManager} {nowMs : Int} {message : Json} {own : String}
    {node : DeviceNode} (here : manager.listed nowMs message own = some node) :
    (node.status = "online" -> node.online = true) ∧ 0 < node.slaveAddr := by
  rw [DataManager.listed, Option.filter_eq_some_iff] at here
  have identified := KeyedStore.proper_of_get here.1
  rcases parseDevicesSnapshot_row here.1 with ⟨row, rfl⟩
  exact ⟨fun online => decide_eq_true online, identified.2.2.2.2⟩

/-- The node in `DeviceManager` of a device that is listed. -/
theorem twins_listed {node : DeviceNode} (identified : node.Identified)
    (addressed : 0 < node.slaveAddr) {data after : RealtimeDeviceData}
    (online : after.node.online = data.node.online) (gateway : after.node.gatewayId = node.gatewayId)
    (port : after.node.port = node.port) (slave : after.node.slaveAddr = node.slaveAddr)
    (number : after.node.deviceId = node.deviceId) (honest : Honest after) :
    Twins (overlaid node data.node) after := by
  have same := overlaid_identity identified data.node
  have address : (overlaid node data.node).slaveAddr = node.slaveAddr :=
    if_neg (not_le.mpr addressed)
  refine ⟨online.symm, same.2.2.1.trans gateway.symm, same.2.2.2.1.trans port.symm, ?_,
    same.2.2.2.2.trans number.symm, honest⟩
  rw [Devices.slaveId, address, same.2.2.2.2, Devices.slaveId, slave, number]

theorem slaveId_overlaid {base live : DeviceNode} (identified : base.Identified)
    (slave : Devices.slaveId base = Devices.slaveId live) (number : base.deviceId = live.deviceId) :
    Devices.slaveId (overlaid base live) = Devices.slaveId live := by
  have same := (overlaid_identity identified live).2.2.2.2
  by_cases unset : base.slaveAddr ≤ 0
  · have address : (overlaid base live).slaveAddr = live.slaveAddr := if_pos unset
    rw [Devices.slaveId, address, same, number, Devices.slaveId]
  · have address : (overlaid base live).slaveAddr = base.slaveAddr := if_neg unset
    rw [← slave, Devices.slaveId, address, same, Devices.slaveId]

theorem snapshotStatus_honest {node : DeviceNode}
    (online : node.status = "online" -> node.online = true) (data : RealtimeDeviceData) :
    Honest (DataManager.snapshotStatus node { data with node := node }) := by
  intro _ status _ _
  unfold DataManager.snapshotStatus at status ⊢
  dsimp only at status ⊢
  split_ifs at status ⊢ <;> exact online status

theorem snapshotData_fields (data : RealtimeDeviceData) (node : DeviceNode) :
    (DataManager.snapshotData data node).node.gatewayId = node.gatewayId ∧
      (DataManager.snapshotData data node).node.port = node.port ∧
      (DataManager.snapshotData data node).node.slaveAddr = node.slaveAddr ∧
      (DataManager.snapshotData data node).node.deviceId = node.deviceId := by
  unfold DataManager.snapshotData DataManager.snapshotStatus
  dsimp only
  split_ifs <;> exact ⟨rfl, rfl, rfl, rfl⟩

theorem snapshotData_honest {data : RealtimeDeviceData} (honest : Honest data) {node : DeviceNode}
    (online : node.status = "online" -> node.online = true) :
    Honest (DataManager.snapshotData data node) := by
  unfold DataManager.snapshotData
  split
  · exact honest
  · exact snapshotStatus_honest online data

theorem snapshotStatus_online (node : DeviceNode) (data : RealtimeDeviceData) :
    (DataManager.snapshotStatus node { data with node := node }).node.online = node.online := by
  unfold DataManager.snapshotStatus
  dsimp only
  split_ifs <;> rfl

theorem snapshotData_online {data : RealtimeDeviceData} {node : DeviceNode}
    (bare : data.points = [] -> node.online = data.node.online) :
    (DataManager.snapshotData data node).node.online = data.node.online := by
  unfold DataManager.snapshotData
  split
  · rfl
  · rename_i empty
    rw [snapshotStatus_online]
    exact bare (not_not.mp empty)

theorem agree_devicesSnapshot {stores : UiStores} {nowMs : Int} {message : Json}
    (condition : MirrorCondition stores (.devicesSnapshot nowMs message)) {own : String}
    (agree : Agree (stores.manager.devices.get own) (stores.manager.realtime.get own)) :
    Agree ((stores.manager.onDevicesSnapshotMessage nowMs message).devices.get own)
      ((stores.manager.onDevicesSnapshotMessage nowMs message).realtime.get own) := by
  rw [stores.manager.devices_onDevicesSnapshotMessage,
    stores.manager.realtime_onDevicesSnapshotMessage]
  cases known : stores.manager.devices.get own with
  | none =>
      rw [known] at agree
      rw [agree_none_left agree]
      cases here : stores.manager.listed nowMs message own with
      | none => trivial
      | some node =>
          have row := online_of_listed here
          have fields := snapshotData_fields {} node
          refine ⟨(snapshotStatus_online node {}).symm, fields.1.symm, fields.2.1.symm, ?_,
            fields.2.2.2.symm, snapshotStatus_honest row.1 {}⟩
          rw [Devices.slaveId, Devices.slaveId]
          exact (by rw [Option.filter_none, Option.getD_none, fields.2.2.1, fields.2.2.2])
  | some node =>
      rw [known] at agree
      rcases agree_some_left agree with ⟨data, live, twins⟩
      have meets := condition own data live
      have stays : (some data).filter (fun data => !stores.manager.isDeleted nowMs data.node) =
          some data := by
        rw [Option.filter_some, meets.1]
        rfl
      rw [live, stays]
      cases here : stores.manager.listed nowMs message own with
      | none =>
          have identified := KeyedStore.proper_of_get known
          have same := overlaid_identity identified data.node
          exact ⟨rfl, same.2.2.1.trans twins.gatewayId, same.2.2.2.1.trans twins.port,
            slaveId_overlaid identified twins.slaveId twins.deviceId,
            same.2.2.2.2.trans twins.deviceId, twins.honest⟩
      | some listed =>
          have row := online_of_listed here
          have fields := snapshotData_fields data listed
          have identified : listed.Identified := by
            rw [DataManager.listed, Option.filter_eq_some_iff] at here
            exact KeyedStore.proper_of_get here.1
          exact twins_listed identified row.2 (snapshotData_online (meets.2 listed here))
            fields.1 fields.2.1 fields.2.2.1 fields.2.2.2 (snapshotData_honest twins.honest row.1)

theorem agree_latestPoints {stores : UiStores} {nowMs : Int} {message : Json}
    (condition : MirrorCondition stores (.latestPoints nowMs message)) {own : String}
    (agree : Agree (stores.manager.devices.get own) (stores.manager.realtime.get own)) :
    Agree ((stores.manager.onLatestPointsMessage nowMs message).devices.get own)
      ((stores.manager.onLatestPointsMessage nowMs message).realtime.get own) := by
  have view := stores.manager.view_onLatestPointsMessage nowMs message own
  rw [DataManager.devices_of_view view, DataManager.realtime_of_view view]
  cases read : (parseLatestPoints nowMs message).get own with
  | none => exact agree
  | some data =>
      dsimp only
      split
      · rename_i taken
        exact twins_latest read (condition own data read taken)
      · exact agree

theorem agree_markAll {manager : DataManager} (reason : String) {own : String}
    (agree : Agree (manager.devices.get own) (manager.realtime.get own)) :
    Agree ((manager.markAllDevicesOffline reason).devices.get own)
      ((manager.markAllDevicesOffline reason).realtime.get own) := by
  have view := manager.view_markAllDevicesOffline reason own
  rw [DataManager.devices_of_view view, DataManager.realtime_of_view view]
  cases known : manager.devices.get own with
  | none =>
      rw [known] at agree
      rw [agree_none_left agree]
      trivial
  | some node =>
      rw [known] at agree
      rcases agree_some_left agree with ⟨data, live, twins⟩
      rw [live]
      refine ⟨rfl, twins.gatewayId, twins.port, twins.slaveId, twins.deviceId, ?_⟩
      intro served
      cases served

theorem refreshed_honest (nowMs timeoutMs : Int) (online : Bool) (data : RealtimeDeviceData) :
    Honest (DataManager.refreshed nowMs timeoutMs online data) := by
  cases online with
  | true => exact fun _ _ _ _ => rfl
  | false =>
      intro _ _ notOffline notStale
      unfold DataManager.refreshed at notOffline notStale
      dsimp only at notOffline notStale
      rw [if_neg Bool.false_ne_true] at notOffline notStale
      dsimp only at notOffline notStale
      by_cases old : kRealtimeOfflineMs <
          if 0 < data.timestamp then nowMs - data.timestamp else timeoutMs + 1
      · exact absurd (if_pos old) notOffline
      · exact absurd (if_neg old) notStale

theorem agree_refresh {manager : DataManager} (nowMs timeoutMs : Int) {own : String}
    (agree : Agree (manager.devices.get own) (manager.realtime.get own)) :
    Agree ((manager.refreshOfflineStates nowMs timeoutMs).devices.get own)
      ((manager.refreshOfflineStates nowMs timeoutMs).realtime.get own) := by
  have view := manager.view_refreshOfflineStates nowMs timeoutMs own
  rw [DataManager.devices_of_view view, DataManager.realtime_of_view view]
  cases known : manager.devices.get own with
  | none =>
      change Agree (manager.devices.get own) (manager.realtime.get own)
      exact agree
  | some node =>
      dsimp only [DataManager.refreshedView]
      split
      · rw [known] at agree
        rcases agree_some_left agree with ⟨data, live, twins⟩
        dsimp only [DataManager.view]
        rw [known, live]
        have same := DataManager.refreshed_same nowMs timeoutMs
          (DataManager.recentlyUpdated nowMs timeoutMs node) data
        have flag : (DataManager.refreshed nowMs timeoutMs
            (DataManager.recentlyUpdated nowMs timeoutMs node) data).node.online =
            DataManager.recentlyUpdated nowMs timeoutMs node := by
          cases DataManager.recentlyUpdated nowMs timeoutMs node <;> rfl
        refine ⟨flag.symm, twins.gatewayId.trans same.gatewayId.symm,
          twins.port.trans same.port.symm, ?_, twins.deviceId.trans same.deviceId.symm,
          refreshed_honest nowMs timeoutMs _ data⟩
        have slave := twins.slaveId
        unfold Devices.slaveId at slave ⊢
        rw [same.slaveAddr, same.deviceId]
        exact slave
      · change Agree (manager.devices.get own) (manager.realtime.get own)
        exact agree

/-- A removal takes both entries of a device or neither. -/
theorem agree_keepIf {manager : DataManager} {gone : DeviceNode -> Bool}
    (same : forall node data, Twins node data -> gone node = gone data.node) {own : String}
    (agree : Agree (manager.devices.get own) (manager.realtime.get own)) :
    Agree (KeyedStore.get (manager.devices.keepIf fun node => !gone node) own)
      (KeyedStore.get (manager.realtime.keepIf fun data => !gone data.node) own) := by
  rw [KeyedStore.get_keepIf, KeyedStore.get_keepIf]
  cases known : manager.devices.get own with
  | none =>
      rw [known] at agree
      rw [agree_none_left agree]
      trivial
  | some node =>
      rw [known] at agree
      rcases agree_some_left agree with ⟨data, live, twins⟩
      rw [live, Option.filter_some, Option.filter_some, same node data twins]
      cases gone data.node with
      | true => trivial
      | false => exact twins

/-- Every device is in both stores or in neither, with the same flag. -/
def StoresAgree (stores : UiStores) : Prop :=
  forall own, Agree (stores.manager.devices.get own) (stores.manager.realtime.get own)

theorem storesAgree_step {stores : UiStores} (agree : StoresAgree stores) (event : StoreEvent)
    (condition : MirrorCondition stores event) : StoresAgree (stores.step event) := by
  intro own
  cases event with
  | latestPoints nowMs message =>
      have next := agree_latestPoints condition (agree own)
      exact next
  | devicesSnapshot nowMs message => exact agree_devicesSnapshot condition (agree own)
  | markAllDevicesOffline reason => exact agree_markAll reason (agree own)
  | refreshOfflineStates nowMs timeoutMs => exact agree_refresh nowMs timeoutMs (agree own)
  | removeDeviceData nowMs gatewayId portId deviceId =>
      refine agree_keepIf ?_ (agree own)
      intro node data twins
      rw [Devices.matchesDevice, twins.gatewayId, twins.port, twins.slaveId,
        Devices.matchesDevice]
  | removeMasterData nowMs gatewayId portId =>
      refine agree_keepIf ?_ (agree own)
      intro node data twins
      rw [Devices.matchesMaster, twins.gatewayId, twins.port, Devices.matchesMaster]
  | rebuildStateMirror source nowMs => exact agree own

/-! ## The mirror -/

theorem get_enterNodes (devices : Devices) (mirror : Mirror) (source : String) (nowMs : Int)
    (own : String) :
    (devices.members.foldl (enterNode mirror source nowMs) KeyedStore.empty).get own =
      (devices.get own).map fun node =>
        nodeState source nowMs ((mirror.get own).getD {}) node := by
  rw [KeyedStore.foldl_members (enterNode mirror source nowMs) KeyedStore.get
    (fun _ node => some (nodeState source nowMs ((mirror.get node.key).getD {}) node)),
    KeyedStore.get_empty]
  · cases known : devices.get own with
    | none => rfl
    | some node =>
        rw [← KeyedStore.key_of_get known]
        rfl
  · exact fun next node => next.get_insert_self _
  · exact fun next node own different => next.get_insert_ne different

theorem mirroredNode_key {old : Option DeviceState} {live : DeviceNode}
    (filed : forall state, old = some state -> state.node.key = live.key) :
    (mirroredNode (old.getD {}) live).key = live.key := by
  unfold mirroredNode
  split
  · rename_i named
    cases old with
    | none => exact absurd rfl named.1
    | some state => exact filed state rfl
  · rfl

theorem get_enterRealtimes (realtime : RealtimeMap) (next mirror : Mirror) (source : String)
    (nowMs : Int) (own : String) :
    (realtime.members.foldl (enterRealtime mirror source nowMs) next).get own =
      match realtime.get own with
      | none => next.get own
      | some data => some (realtimeState source nowMs
          (((next.get own).or (mirror.get own)).getD {}) data) := by
  have key : forall (next : Mirror) (data : RealtimeDeviceData),
      (mirroredNode (((next.get data.node.key).or (mirror.get data.node.key)).getD {})
        data.node).key = data.node.key := by
    intro next data
    apply mirroredNode_key
    intro state either
    rw [Option.or_eq_some_iff] at either
    rcases either with here | ⟨-, there⟩
    · exact Mirror.key here
    · exact Mirror.key there
  rw [KeyedStore.foldl_members (enterRealtime mirror source nowMs) KeyedStore.get
    (fun state data => some (realtimeState source nowMs
      ((state.or (mirror.get data.node.key)).getD {}) data))]
  · cases live : realtime.get own with
    | none => rfl
    | some data =>
        have filed : data.node.key = own := (realtime.filed own data live).1
        rw [← filed]
        rfl
  · intro next data
    rw [enterRealtime, KeyedStore.get_insert]
    exact if_pos (key next data.1).symm
  · intro next data own different
    rw [enterRealtime, KeyedStore.get_insert]
    exact if_neg fun same => different (same.trans (key next data.1))

/-- The mirror of a device that is in both stores, or in neither. -/
theorem get_rebuildStateMirror {manager : DataManager} {own : String}
    (agree : Agree (manager.devices.get own) (manager.realtime.get own)) (mirror : Mirror)
    (source : String) (nowMs : Int) :
    ((rebuildStateMirror manager mirror source nowMs).get own = none ∧
        manager.devices.get own = none) ∨
      exists node data state, manager.devices.get own = some node ∧
        manager.realtime.get own = some data ∧ Twins node data ∧
        (rebuildStateMirror manager mirror source nowMs).get own = some state ∧
        state.realtime = data ∧ state.node.online = data.node.online ∧
        state.node.status = data.node.status ∧ state.lifecycleState = lifecycleFor state := by
  unfold rebuildStateMirror
  dsimp only
  rw [KeyedStore.get_updateWhere, get_enterRealtimes, get_enterNodes]
  cases known : manager.devices.get own with
  | none =>
      rw [known] at agree
      rw [agree_none_left agree]
      exact Or.inl ⟨rfl, rfl⟩
  | some node =>
      rw [known] at agree
      rcases agree_some_left agree with ⟨data, live, twins⟩
      have named := KeyedStore.proper_of_get known
      rw [live]
      refine Or.inr ⟨node, data, _, rfl, rfl, twins, rfl, ?_⟩
      rw [Option.map_some, Option.some_or, Option.getD_some]
      have fields : (mirroredNode (nodeState source nowMs ((mirror.get own).getD {}) node)
            data.node).online = data.node.online ∧
          (mirroredNode (nodeState source nowMs ((mirror.get own).getD {}) node)
            data.node).status = data.node.status := by
        have shown : (nodeState source nowMs ((mirror.get own).getD {}) node).node.Identified :=
          named
        unfold mirroredNode
        rw [if_pos shown]
        exact ⟨rfl, rfl⟩
      dsimp only
      split
      · exact ⟨rfl, fields.1, fields.2, rfl⟩
      · exact ⟨rfl, fields.1, fields.2, rfl⟩

theorem online_of_lifecycle {state : DeviceState} (honest : Honest state.realtime)
    (online : state.node.online = state.realtime.node.online)
    (status : state.node.status = state.realtime.node.status)
    (alive : lifecycleFor state = "online") : state.node.online = true := by
  unfold lifecycleFor at alive
  rw [status] at alive
  split_ifs at alive with served offline stale shown named
  · exact absurd alive (by decide)
  · exact absurd alive (by decide)
  · exact absurd alive (by decide)
  · rcases Bool.or_eq_true_iff.mp shown with flag | text
    · exact flag
    · rw [online]
      have plain := (Bool.or_eq_true_iff.not.mp served)
      rw [not_or] at offline stale plain
      exact honest (Bool.not_eq_true _ |>.mp plain.1) (of_decide_eq_true text) offline.1 stale.1
  · rw [alive] at shown
    simp at shown
  · exact absurd alive (by decide)

theorem coherent_rebuild {stores : UiStores} (agree : StoresAgree stores) (source : String)
    (nowMs : Int) : Coherent (stores.step (.rebuildStateMirror source nowMs)) where
  online own node data known live := by
    rcases get_rebuildStateMirror (agree own) stores.mirror source nowMs with
      ⟨-, absent⟩ | ⟨node', data', state, known', live', twins, found, -, online, -⟩
    · cases absent.symm.trans known
    · cases known'.symm.trans known
      cases live'.symm.trans live
      exact ⟨state, found, twins.online.symm, online.trans twins.online.symm⟩
  count := by
    apply Table.countP_values_eq
    intro own
    change Option.any DeviceState.countsOnline
        ((rebuildStateMirror stores.manager stores.mirror source nowMs).get own) =
      Option.any (fun node => node.online) (stores.manager.devices.get own)
    rcases get_rebuildStateMirror (agree own) stores.mirror source nowMs with
      ⟨found, absent⟩ | ⟨node, data, state, known, -, twins, found, same, online, status, alive⟩
    · rw [found, absent]
      rfl
    · rw [found, known, Option.any_some, Option.any_some, twins.online, ← online,
        DeviceState.countsOnline, alive]
      cases flag : state.node.online with
      | true => rw [Bool.or_true]
      | false =>
          rw [Bool.or_false]
          apply decide_eq_false
          intro word
          rw [← same] at online status
          have shown := online_of_lifecycle (same ▸ twins.honest) online status word
          exact Bool.false_ne_true (flag.symm.trans shown)

theorem storesAgree_start : StoresAgree UiStores.start :=
  fun _ => trivial

/-- In a run whose steps meet the condition the three copies agree after every
rebuilding of the mirror. -/
theorem coherent_run {events : List StoreEvent}
    (admissible : storeSystem.Admissible MirrorCondition events)
    {before after : List StoreEvent} {source : String} {nowMs : Int}
    (split : events = before ++ .rebuildStateMirror source nowMs :: after) :
    Coherent (storeSystem.run (before ++ [.rebuildStateMirror source nowMs])) := by
  rw [split] at admissible
  have agree : StoresAgree (storeSystem.run before) :=
    storeSystem.invariant_run storesAgree_start (fun _ => fun event agree => storesAgree_step agree event)
      (storeSystem.admissible_initial admissible)
  rw [TransitionSystem.run, storeSystem.runFrom_append]
  exact coherent_rebuild agree source nowMs

/-- A device without telemetry, with the given status. -/
def relayRow (status : String) : Json :=
  .obj [("factoryId", .str "factory_001"), ("areaId", .str "area_001"),
    ("gatewayId", .str "gateway_001"), ("portId", .str "port_001"), ("deviceId", .int 3),
    ("deviceType", .str "relay"), ("expectTelemetry", .bool false), ("status", .str status)]

def relayMessage (status : String) : Json :=
  .obj [("type", .str "devices_snapshot"), ("devices", .arr [relayRow status])]

theorem relay_coherent :
    Coherent (storeSystem.run [.devicesSnapshot 1000 (relayMessage "online"),
      .rebuildStateMirror "devices_snapshot" 1000]) := by
  refine @coherent_run [.devicesSnapshot 1000 (relayMessage "online"),
    .rebuildStateMirror "devices_snapshot" 1000] ⟨?_, trivial, trivial⟩ [_] [] _ _ rfl
  intro own data absent
  cases absent

/-- The device is listed as offline and then as online: `DeviceManager` keeps
the first flag and the realtime map has the second. -/
theorem relay_incoherent :
    ¬ Coherent (storeSystem.run [.devicesSnapshot 1000 (relayMessage "offline"),
      .devicesSnapshot 2000 (relayMessage "online"),
      .rebuildStateMirror "devices_snapshot" 2000]) := by
  intro coherent
  have counted := coherent.count
  revert counted
  decide +kernel

end Realtime
end Ui
end Imx6Gateway
