import Imx6Gateway.Library.Transition
import Imx6Gateway.Ui.DataManager

namespace Imx6Gateway
namespace Ui
namespace Realtime

open Library

/-!
# Devices that the user has removed

A removed device is remembered under a text made of its gateway, its port and
its number, and no message brings it back before it is forgotten.  Removing a
port remembers the devices of the realtime map only.
-/

/-- What changes the stores of `DataManager`. -/
inductive ManagerEvent where
  | latestPoints (nowMs : Int) (message : Json)
  | devicesSnapshot (nowMs : Int) (message : Json)
  | markAllDevicesOffline (reason : String)
  | refreshOfflineStates (nowMs timeoutMs : Int)
  | removeDeviceData (nowMs : Int) (gatewayId portId : String) (deviceId : Int)
  | removeMasterData (nowMs : Int) (gatewayId portId : String)
  | forgetRemovedDevice (gatewayId portId : String) (deviceId : Int)
  | clearRuntimeData

def DataManager.step (manager : DataManager) : ManagerEvent -> DataManager
  | .latestPoints nowMs message => manager.onLatestPointsMessage nowMs message
  | .devicesSnapshot nowMs message => manager.onDevicesSnapshotMessage nowMs message
  | .markAllDevicesOffline reason => manager.markAllDevicesOffline reason
  | .refreshOfflineStates nowMs timeoutMs => manager.refreshOfflineStates nowMs timeoutMs
  | .removeDeviceData nowMs gatewayId portId deviceId =>
      manager.removeDeviceData nowMs gatewayId portId deviceId
  | .removeMasterData nowMs gatewayId portId => manager.removeMasterData nowMs gatewayId portId
  | .forgetRemovedDevice gatewayId portId deviceId =>
      manager.forgetRemovedDevice gatewayId portId deviceId
  | .clearRuntimeData => manager.clearRuntimeData

/-- What names a device to the functions that remove it. -/
structure DeviceId where
  gatewayId : String
  portId : String
  deviceId : Int
deriving DecidableEq

def DeviceNode.id (node : DeviceNode) : DeviceId :=
  ⟨node.gatewayId, node.port, node.deviceId⟩

def DeviceId.key (device : DeviceId) : String :=
  deletedDeviceKey device.gatewayId device.portId device.deviceId

/-- No removed device without these is ever remembered. -/
abbrev DeviceId.Named (device : DeviceId) : Prop :=
  device.gatewayId ≠ "" ∧ device.portId ≠ "" ∧ 0 < device.deviceId

namespace DataManager

/-- The device is in `DeviceManager` or in the realtime map. -/
def knows (manager : DataManager) (device : DeviceId) : Bool :=
  manager.devices.values.any (fun node => node.id = device) ||
    manager.realtime.values.any fun data => data.node.id = device

end DataManager

/-- The manager, with the devices that have been removed and not forgotten. -/
structure Removing where
  manager : DataManager
  removed : DeviceId -> Bool

namespace Removing

def start : Removing :=
  ⟨DataManager.start, fun _ => false⟩

/-- The devices that are removed and not forgotten after an event. -/
def removedAfter (state : Removing) : ManagerEvent -> DeviceId -> Bool
  | .removeDeviceData _ gatewayId portId deviceId, device =>
      device = ⟨gatewayId, portId, deviceId⟩ || state.removed device
  | .removeMasterData _ gatewayId portId, device =>
      (device.gatewayId = gatewayId && device.portId = portId && state.manager.knows device) ||
        state.removed device
  | .forgetRemovedDevice gatewayId portId deviceId, device =>
      state.removed device && device ≠ ⟨gatewayId, portId, deviceId⟩
  | _, device => state.removed device

def step (state : Removing) (event : ManagerEvent) : Removing :=
  ⟨state.manager.step event, state.removedAfter event⟩

end Removing

def removalSystem : TransitionSystem Removing ManagerEvent where
  initial := Removing.start
  step := Removing.step

/-- The device is in what the pages show. -/
def Appears (manager : DataManager) (device : DeviceId) : Prop :=
  (exists node, node ∈ manager.deviceTreeSnapshot ∧ node.id = device) ∨
    exists data, data ∈ manager.allRealtimeData ∧ data.node.id = device

/-- No removed device appears. -/
def StaysRemoved (state : Removing) : Prop :=
  forall device, state.removed device = true -> ¬ Appears state.manager device

/-- The device is remembered for good. -/
def Remembered (manager : DataManager) (device : DeviceId) : Prop :=
  exists expiresAt, manager.deletedDevices.get device.key = some expiresAt ∧ expiresAt < 0

/-- A removal takes place after 1970.  The devices of a removed port that are in
`DeviceManager` are in the realtime map as well, or are remembered already.
A device is forgotten only if no other removed device has the same text. -/
def RemovalCondition (state : Removing) : ManagerEvent -> Prop
  | .removeDeviceData nowMs _ _ _ => 0 < nowMs
  | .removeMasterData nowMs gatewayId portId =>
      0 < nowMs ∧ forall node, node ∈ state.manager.devices.values ->
        node.gatewayId = gatewayId -> node.port = portId ->
        (exists data, data ∈ state.manager.realtime.values ∧ data.node.id = node.id) ∨
          Remembered state.manager node.id
  | .forgetRemovedDevice gatewayId portId deviceId =>
      forall device, state.removed device = true -> device.Named ->
        device ≠ ⟨gatewayId, portId, deviceId⟩ ->
        device.key ≠ deletedDeviceKey gatewayId portId deviceId
  | _ => True

/-! ## Where the nodes come from -/

namespace DataManager

/-- The node is in one of the two stores. -/
def Holds (manager : DataManager) (node : DeviceNode) : Prop :=
  (exists own, manager.devices.get own = some node) ∨
    exists own data, manager.realtime.get own = some data ∧ data.node = node

theorem knows_iff {manager : DataManager} {device : DeviceId} :
    manager.knows device = true ↔ exists node, manager.Holds node ∧ node.id = device := by
  unfold knows
  rw [Bool.or_eq_true, List.any_eq_true, List.any_eq_true]
  constructor
  · rintro (⟨node, inside, named⟩ | ⟨data, inside, named⟩)
    · exact ⟨node, Or.inl ⟨_, KeyedStore.mem_values.mp inside⟩, of_decide_eq_true named⟩
    · exact ⟨data.node, Or.inr ⟨_, data, KeyedStore.mem_values.mp inside, rfl⟩,
        of_decide_eq_true named⟩
  · rintro ⟨node, ⟨own, found⟩ | ⟨own, data, found, rfl⟩, named⟩
    · refine Or.inl ⟨node, KeyedStore.mem_values.mpr ?_, decide_eq_true named⟩
      rw [KeyedStore.key_of_get found]
      exact found
    · refine Or.inr ⟨data, KeyedStore.mem_values.mpr ?_, decide_eq_true named⟩
      rw [KeyedStore.key_of_get found]
      exact found

theorem Holds.identified {manager : DataManager} {node : DeviceNode} (held : manager.Holds node) :
    node.Identified := by
  rcases held with ⟨own, found⟩ | ⟨own, data, found, rfl⟩
  · exact KeyedStore.proper_of_get found
  · exact RealtimeMap.identified found

end DataManager

/-- The nodes of the two stores have the number of the device as their address. -/
def Addressed (manager : DataManager) : Prop :=
  forall node, manager.Holds node -> node.slaveAddr = node.deviceId

/-- The node names the same device at the same address. -/
structure SameIdentity (old node : DeviceNode) : Prop where
  id : node.id = old.id
  slaveAddr : node.slaveAddr = old.slaveAddr

/-- A message has brought the node, which is not removed. -/
structure Brought (manager : DataManager) (nowMs : Int) (node : DeviceNode) : Prop where
  addressed : node.slaveAddr = node.deviceId
  kept : manager.isDeleted nowMs node = false

/-- The node after a message was held or brought. -/
def Origin (manager : DataManager) (nowMs : Int) (node : DeviceNode) : Prop :=
  (exists old, manager.Holds old ∧ SameIdentity old node) ∨ Brought manager nowMs node

theorem origin_of_holds {manager : DataManager} {node : DeviceNode} (held : manager.Holds node)
    (nowMs : Int) : Origin manager nowMs node :=
  Or.inl ⟨node, held, rfl, rfl⟩

theorem brought_of_built {manager : DataManager} {nowMs : Int} {object : Json} {own : String}
    {data : RealtimeDeviceData} (read : (parseLatestPoints nowMs object).get own = some data)
    (kept : manager.isDeleted nowMs data.node = false) : Brought manager nowMs data.node := by
  rcases parseLatestPoints_built read with ⟨group, rfl⟩
  have same := buildRealtimeDeviceData_same nowMs group
  refine ⟨?_, kept⟩
  rw [same.slaveAddr, same.deviceId]
  rfl

theorem origin_latestPoints {manager : DataManager} {nowMs : Int} {message : Json}
    {node : DeviceNode} (held : (manager.onLatestPointsMessage nowMs message).Holds node) :
    Origin manager nowMs node := by
  have view := manager.view_onLatestPointsMessage nowMs message
  have entries : forall own,
      ((manager.onLatestPointsMessage nowMs message).devices.get own = manager.devices.get own ∧
        (manager.onLatestPointsMessage nowMs message).realtime.get own =
          manager.realtime.get own) ∨
      exists data, Brought manager nowMs data.node ∧
        (manager.onLatestPointsMessage nowMs message).devices.get own = some data.node ∧
        (manager.onLatestPointsMessage nowMs message).realtime.get own = some data := by
    intro own
    have here := view own
    cases read : (parseLatestPoints nowMs message).get own with
    | none =>
        rw [read] at here
        exact Or.inl ⟨DataManager.devices_of_view here, DataManager.realtime_of_view here⟩
    | some data =>
        rw [read] at here
        dsimp only at here
        split at here
        · rename_i taken
          rw [← KeyedStore.key_of_get read, DataManager.takes_eq, Bool.and_eq_true,
            Bool.not_eq_true'] at taken
          exact Or.inr ⟨data, brought_of_built read taken.1,
            DataManager.devices_of_view here, DataManager.realtime_of_view here⟩
        · exact Or.inl ⟨DataManager.devices_of_view here, DataManager.realtime_of_view here⟩
  rcases held with ⟨own, found⟩ | ⟨own, data, found, rfl⟩
  · rcases entries own with ⟨old, -⟩ | ⟨data, brought, new, -⟩
    · rw [old] at found
      exact origin_of_holds (Or.inl ⟨own, found⟩) nowMs
    · rw [new] at found
      cases found
      exact Or.inr brought
  · rcases entries own with ⟨-, old⟩ | ⟨other, brought, -, new⟩
    · rw [old] at found
      exact origin_of_holds (Or.inr ⟨own, data, found, rfl⟩) nowMs
    · rw [new] at found
      cases found
      exact Or.inr brought

theorem brought_of_listed {manager : DataManager} {nowMs : Int} {message : Json} {own : String}
    {node : DeviceNode} (here : manager.listed nowMs message own = some node) :
    Brought manager nowMs node := by
  rw [DataManager.listed, Option.filter_eq_some_iff, Bool.not_eq_true'] at here
  rcases parseDevicesSnapshot_row here.1 with ⟨row, rfl⟩
  exact ⟨rfl, here.2⟩

/-- Putting the state of a record over a node keeps whom the node names. -/
theorem overlaid_same {base : DeviceNode} (identified : base.Identified)
    (addressed : base.slaveAddr = base.deviceId) (live : DeviceNode) :
    SameIdentity base (overlaid base live) := by
  have same := overlaid_identity identified live
  refine ⟨?_, ?_⟩
  · rw [DeviceNode.id, same.2.2.1, same.2.2.2.1, same.2.2.2.2]
    rfl
  · apply if_neg
    rw [addressed]
    exact not_le.mpr identified.2.2.2.2

theorem Origin.overlaid {manager : DataManager} (addressed : Addressed manager) {nowMs : Int}
    {base : DeviceNode} (identified : base.Identified) (origin : Origin manager nowMs base)
    (live : DeviceNode) : Origin manager nowMs (Realtime.overlaid base live) := by
  rcases origin with ⟨old, held, same⟩ | brought
  · have number : base.slaveAddr = base.deviceId := by
      rw [same.slaveAddr, addressed old held]
      exact congrArg DeviceId.deviceId same.id.symm
    have laid := overlaid_same identified number live
    exact Or.inl ⟨old, held, laid.id.trans same.id, laid.slaveAddr.trans same.slaveAddr⟩
  · have laid := overlaid_same identified brought.addressed live
    refine Or.inr ⟨?_, ?_⟩
    · rw [laid.slaveAddr, brought.addressed]
      exact congrArg DeviceId.deviceId laid.id.symm
    · have deleted : manager.isDeleted nowMs (Realtime.overlaid base live) =
          manager.isDeleted nowMs base := by
        have named := laid.id
        unfold DeviceNode.id at named
        injection named with gateway port number
        rw [DataManager.isDeleted, gateway, port, number, DataManager.isDeleted]
      rw [deleted]
      exact brought.kept

theorem origin_devicesSnapshot {manager : DataManager} (addressed : Addressed manager)
    {nowMs : Int} {message : Json} {node : DeviceNode}
    (held : (manager.onDevicesSnapshotMessage nowMs message).Holds node) :
    Origin manager nowMs node := by
  rcases held with ⟨own, found⟩ | ⟨own, data, found, rfl⟩
  · rw [manager.devices_onDevicesSnapshotMessage] at found
    have merged : forall base,
        (manager.listed nowMs message own).or (manager.devices.get own) = some base ->
        base.Identified ∧ Origin manager nowMs base := by
      intro base either
      rw [Option.or_eq_some_iff] at either
      rcases either with here | ⟨-, old⟩
      · have listed := here
        rw [DataManager.listed, Option.filter_eq_some_iff] at listed
        exact ⟨KeyedStore.proper_of_get listed.1, Or.inr (brought_of_listed here)⟩
      · exact ⟨KeyedStore.proper_of_get old, origin_of_holds (Or.inl ⟨own, old⟩) nowMs⟩
    cases live : manager.realtime.get own with
    | none =>
        rw [live] at found
        exact (merged node found).2
    | some data =>
        rw [live] at found
        injection found with same
        rw [← same]
        cases base : (manager.listed nowMs message own).or (manager.devices.get own) with
        | none =>
            rw [Option.getD_none]
            exact Origin.overlaid addressed (RealtimeMap.identified live)
              (origin_of_holds (Or.inr ⟨own, data, live, rfl⟩) nowMs) data.node
        | some base' =>
            have origin := merged base' base
            rw [Option.getD_some]
            exact Origin.overlaid addressed origin.1 origin.2 data.node
  · rw [manager.realtime_onDevicesSnapshotMessage] at found
    cases here : manager.listed nowMs message own with
    | none =>
        rw [here] at found
        dsimp only at found
        rw [Option.filter_eq_some_iff] at found
        exact origin_of_holds (Or.inr ⟨own, data, found.1, rfl⟩) nowMs
    | some node =>
        rw [here] at found
        injection found with same
        have brought := brought_of_listed here
        rw [← same]
        refine Or.inr ⟨?_, ?_⟩
        · unfold DataManager.snapshotData DataManager.snapshotStatus
          dsimp only
          split_ifs <;> exact brought.addressed
        · unfold DataManager.snapshotData DataManager.snapshotStatus
          dsimp only
          split_ifs <;> exact brought.kept

theorem origin_markAll {manager : DataManager} {reason : String} {node : DeviceNode}
    (held : (manager.markAllDevicesOffline reason).Holds node) (nowMs : Int) :
    Origin manager nowMs node := by
  have view := manager.view_markAllDevicesOffline reason
  rcases held with ⟨own, found⟩ | ⟨own, data, found, rfl⟩
  · have entry : (manager.devices.get own).map (DataManager.nodeOffline reason) = some node :=
      (DataManager.devices_of_view (view own)).symm.trans found
    rcases Option.map_eq_some_iff.mp entry with ⟨old, before, rfl⟩
    exact Or.inl ⟨old, Or.inl ⟨own, before⟩, rfl, rfl⟩
  · have entry : (manager.realtime.get own).map (DataManager.dataOffline reason) = some data :=
      (DataManager.realtime_of_view (view own)).symm.trans found
    rcases Option.map_eq_some_iff.mp entry with ⟨old, before, rfl⟩
    exact Or.inl ⟨old.node, Or.inr ⟨own, old, before, rfl⟩, rfl, rfl⟩

theorem refreshed_identity (nowMs timeoutMs : Int) (online : Bool) (data : RealtimeDeviceData) :
    SameIdentity data.node (DataManager.refreshed nowMs timeoutMs online data).node := by
  cases online <;> exact ⟨rfl, rfl⟩

theorem origin_refresh {manager : DataManager} {nowMs timeoutMs : Int} {node : DeviceNode}
    (held : (manager.refreshOfflineStates nowMs timeoutMs).Holds node) :
    Origin manager nowMs node := by
  have view := manager.view_refreshOfflineStates nowMs timeoutMs
  have nodes : forall own node,
      (manager.refreshOfflineStates nowMs timeoutMs).devices.get own = some node ->
      exists old, manager.devices.get own = some old ∧ SameIdentity old node := by
    intro own node found
    have entry := (DataManager.devices_of_view (view own)).symm.trans found
    cases before : manager.devices.get own with
    | none =>
        rw [before] at entry
        exact absurd (before.symm.trans entry) (Option.some_ne_none node).symm
    | some old =>
        rw [before] at entry
        dsimp only [DataManager.refreshedView] at entry
        split at entry
        · rw [DataManager.view, before] at entry
          cases entry
          exact ⟨old, rfl, rfl, rfl⟩
        · cases before.symm.trans entry
          exact ⟨node, rfl, rfl, rfl⟩
  have records : forall own data,
      (manager.refreshOfflineStates nowMs timeoutMs).realtime.get own = some data ->
      exists old, manager.realtime.get own = some old ∧ SameIdentity old.node data.node := by
    intro own data found
    have entry := (DataManager.realtime_of_view (view own)).symm.trans found
    cases known : manager.devices.get own with
    | none =>
        rw [known] at entry
        exact ⟨data, entry, rfl, rfl⟩
    | some device =>
        rw [known] at entry
        dsimp only [DataManager.refreshedView] at entry
        split at entry
        · rcases Option.map_eq_some_iff.mp entry with ⟨old, before, rfl⟩
          exact ⟨old, before, refreshed_identity nowMs timeoutMs _ old⟩
        · exact ⟨data, entry, rfl, rfl⟩
  rcases held with ⟨own, found⟩ | ⟨own, data, found, rfl⟩
  · rcases nodes own node found with ⟨old, before, same⟩
    exact Or.inl ⟨old, Or.inl ⟨own, before⟩, same⟩
  · rcases records own data found with ⟨old, before, same⟩
    exact Or.inl ⟨old.node, Or.inr ⟨own, old, before, rfl⟩, same⟩

/-- What a removal leaves was there and does not match. -/
theorem holds_removed {manager : DataManager} {gone : DeviceNode -> Bool} {node : DeviceNode}
    {deletedDevices : Table String Int}
    (held : DataManager.Holds
      { manager with
        devices := manager.devices.keepIf fun node => !gone node
        realtime := manager.realtime.keepIf fun data => !gone data.node
        deletedDevices := deletedDevices } node) :
    manager.Holds node ∧ gone node = false := by
  rcases held with ⟨own, found⟩ | ⟨own, data, found, rfl⟩
  · rw [KeyedStore.get_keepIf, Option.filter_eq_some_iff, Bool.not_eq_true'] at found
    exact ⟨Or.inl ⟨own, found.1⟩, found.2⟩
  · rw [KeyedStore.get_keepIf, Option.filter_eq_some_iff, Bool.not_eq_true'] at found
    exact ⟨Or.inr ⟨own, data, found.1, rfl⟩, found.2⟩

/-! ## The tombstones -/

theorem isDeleted_of_remembered {manager : DataManager} {node : DeviceNode}
    (remembered : Remembered manager node.id) (nowMs : Int) :
    manager.isDeleted nowMs node = true := by
  rcases remembered with ⟨expiresAt, found, past⟩
  change manager.deletedDevices.get (deletedDeviceKey node.gatewayId node.port node.deviceId) =
    some expiresAt at found
  rw [DataManager.isDeleted, DataManager.isDeletedDevice, found]
  simp [past]

/-- The tombstone of a text is negative. -/
def Buried (deletedDevices : Table String Int) (text : String) : Prop :=
  exists expiresAt, deletedDevices.get text = some expiresAt ∧ expiresAt < 0

theorem buried_remember {nowMs : Int} (started : 0 < nowMs) {gatewayId portId : String}
    {deletedDevices : Table String Int} {deviceId : Int} {text : String} :
    (Buried deletedDevices text ->
      Buried (DataManager.rememberDeletedDevice nowMs gatewayId portId deletedDevices deviceId)
        text) ∧
    (DeviceId.Named ⟨gatewayId, portId, deviceId⟩ ->
      Buried (DataManager.rememberDeletedDevice nowMs gatewayId portId deletedDevices deviceId)
        (deletedDeviceKey gatewayId portId deviceId)) := by
  unfold Buried DataManager.rememberDeletedDevice
  split
  · rename_i unnamed
    refine ⟨id, ?_⟩
    rintro ⟨gateway, port, number⟩
    rcases unnamed with empty | empty | small
    · exact absurd empty gateway
    · exact absurd empty port
    · exact absurd number (not_lt.mpr small)
  · refine ⟨?_, ?_⟩
    · rintro ⟨expiresAt, found, past⟩
      rw [Table.get_put]
      split
      · exact ⟨-nowMs, rfl, by omega⟩
      · exact ⟨expiresAt, found, past⟩
    · intro _
      rw [Table.get_put, if_pos rfl]
      exact ⟨-nowMs, rfl, by omega⟩

theorem buried_rememberAll {nowMs : Int} (started : 0 < nowMs) {gatewayId portId : String}
    (deviceIds : List Int) (deletedDevices : Table String Int) {text : String} :
    (Buried deletedDevices text ->
      Buried (deviceIds.foldl (DataManager.rememberDeletedDevice nowMs gatewayId portId)
        deletedDevices) text) ∧
    forall deviceId, deviceId ∈ deviceIds -> DeviceId.Named ⟨gatewayId, portId, deviceId⟩ ->
      Buried (deviceIds.foldl (DataManager.rememberDeletedDevice nowMs gatewayId portId)
        deletedDevices) (deletedDeviceKey gatewayId portId deviceId) := by
  induction deviceIds generalizing deletedDevices text with
  | nil => exact ⟨id, fun _ inside => by cases inside⟩
  | cons first rest ih =>
      refine ⟨?_, ?_⟩
      · intro before
        exact (ih _).1 ((buried_remember started).1 before)
      · intro deviceId inside named
        rcases List.mem_cons.mp inside with rfl | later
        · exact (ih _).1 ((@buried_remember nowMs started _ _ deletedDevices _ "").2 named)
        · exact (@ih _ text).2 deviceId later named

/-! ## Steps and runs -/

/-- The removed devices are remembered, and in neither store. -/
structure Tidy (state : Removing) : Prop where
  addressed : Addressed state.manager
  remembered : forall device, state.removed device = true -> device.Named ->
    Remembered state.manager device
  absent : forall device, state.removed device = true -> forall node, state.manager.Holds node ->
    node.id ≠ device

theorem named_of_holds {manager : DataManager} {node : DeviceNode} (held : manager.Holds node) :
    node.id.Named :=
  held.identified.2.2

/-- An event that remembers nothing new and after which every node is one that
was held, or has been brought by a message. -/
theorem Tidy.of_origin {state : Removing} (tidy : Tidy state) {nowMs : Int}
    {manager : DataManager} (same : manager.deletedDevices = state.manager.deletedDevices)
    (origin : forall node, manager.Holds node -> Origin state.manager nowMs node) :
    Tidy ⟨manager, state.removed⟩ where
  addressed node held := by
    rcases origin node held with ⟨old, before, kept⟩ | brought
    · rw [kept.slaveAddr, tidy.addressed old before]
      exact congrArg DeviceId.deviceId kept.id.symm
    · exact brought.addressed
  remembered device removed named := by
    rcases tidy.remembered device removed named with ⟨expiresAt, found, past⟩
    exact ⟨expiresAt, same ▸ found, past⟩
  absent device removed node held named := by
    rcases origin node held with ⟨old, before, kept⟩ | brought
    · exact tidy.absent device removed old before (kept.id.symm.trans named)
    · have remembered := tidy.remembered device removed (named ▸ named_of_holds held)
      rw [← named] at remembered
      exact Bool.false_ne_true
        (brought.kept.symm.trans (isDeleted_of_remembered remembered nowMs))

theorem slaveId_of_addressed {manager : DataManager} (addressed : Addressed manager)
    {node : DeviceNode} (held : manager.Holds node) : Devices.slaveId node = node.deviceId := by
  unfold Devices.slaveId
  rw [addressed node held]
  split <;> rfl

theorem tidy_removeDeviceData {state : Removing} (tidy : Tidy state) {nowMs : Int}
    (started : 0 < nowMs) (gatewayId portId : String) (deviceId : Int) :
    Tidy (state.step (.removeDeviceData nowMs gatewayId portId deviceId)) where
  addressed node held := tidy.addressed node (holds_removed held).1
  remembered device removed named := by
    rcases Bool.or_eq_true_iff.mp removed with here | before
    · rw [of_decide_eq_true here] at named ⊢
      exact (@buried_remember nowMs started _ _ state.manager.deletedDevices _ "").2 named
    · exact (buried_remember started).1 (tidy.remembered device before named)
  absent device removed node held named := by
    have left := holds_removed held
    rcases Bool.or_eq_true_iff.mp removed with here | before
    · rw [of_decide_eq_true here] at named
      injection named with gateway port number
      have matching := left.2
      unfold Devices.matchesDevice at matching
      rw [slaveId_of_addressed tidy.addressed left.1, gateway, port, number] at matching
      simp at matching
    · exact tidy.absent device before node left.1 named

theorem tidy_removeMasterData {state : Removing} (tidy : Tidy state) {nowMs : Int}
    {gatewayId portId : String}
    (condition : RemovalCondition state (.removeMasterData nowMs gatewayId portId)) :
    Tidy (state.step (.removeMasterData nowMs gatewayId portId)) where
  addressed node held := tidy.addressed node (holds_removed held).1
  remembered device removed named := by
    have all := @buried_rememberAll nowMs condition.1 gatewayId portId
      ((state.manager.realtime.values.filter fun data =>
        Devices.matchesMaster gatewayId portId data.node).map fun data => data.node.deviceId)
      state.manager.deletedDevices
    have recorded : forall data, data ∈ state.manager.realtime.values -> data.node.id = device ->
        device.gatewayId = gatewayId -> device.portId = portId ->
        Remembered (state.step (.removeMasterData nowMs gatewayId portId)).manager device := by
      rintro data inside rfl gateway port
      have matching : Devices.matchesMaster gatewayId portId data.node = true := by
        have gateway' : data.node.gatewayId = gatewayId := gateway
        have port' : data.node.port = portId := port
        rw [Devices.matchesMaster, gateway', port', decide_eq_true rfl, decide_eq_true rfl]
        rfl
      have buried := (@all "").2 data.node.deviceId
        (List.mem_map_of_mem (List.mem_filter.mpr ⟨inside, matching⟩))
        (by rw [← gateway, ← port]; exact named)
      rw [← gateway, ← port] at buried ⊢
      exact buried
    rcases Bool.or_eq_true_iff.mp removed with here | before
    · rw [Bool.and_eq_true, Bool.and_eq_true, decide_eq_true_eq, decide_eq_true_eq,
        DataManager.knows_iff] at here
      rcases here with ⟨⟨gateway, port⟩, node, held, same⟩
      rcases held with ⟨own, found⟩ | ⟨own, data, found, rfl⟩
      · have inside : node ∈ state.manager.devices.values := by
          rw [KeyedStore.mem_values, KeyedStore.key_of_get found]
          exact found
        rcases condition.2 node inside (by rw [← gateway, ← same]; rfl)
          (by rw [← port, ← same]; rfl) with ⟨data, listed, twin⟩ | remembered
        · exact recorded data listed (twin.trans same) gateway port
        · rw [same] at remembered
          exact (@all _).1 remembered
      · have inside : data ∈ state.manager.realtime.values := by
          rw [KeyedStore.mem_values, KeyedStore.key_of_get found]
          exact found
        exact recorded data inside same gateway port
    · exact (@all _).1 (tidy.remembered device before named)
  absent device removed node held named := by
    have left := holds_removed held
    rcases Bool.or_eq_true_iff.mp removed with here | before
    · rw [Bool.and_eq_true, Bool.and_eq_true, decide_eq_true_eq, decide_eq_true_eq] at here
      have matching := left.2
      unfold Devices.matchesMaster at matching
      rw [← here.1.1, ← here.1.2, ← named] at matching
      simp [DeviceNode.id] at matching
    · exact tidy.absent device before node left.1 named

theorem tidy_forgetRemovedDevice {state : Removing} (tidy : Tidy state) {gatewayId portId : String}
    {deviceId : Int}
    (condition : RemovalCondition state (.forgetRemovedDevice gatewayId portId deviceId)) :
    Tidy (state.step (.forgetRemovedDevice gatewayId portId deviceId)) where
  addressed := tidy.addressed
  remembered device removed named := by
    rcases Bool.and_eq_true_iff.mp removed with ⟨before, different⟩
    rcases tidy.remembered device before named with ⟨expiresAt, found, past⟩
    refine ⟨expiresAt, ?_, past⟩
    change Table.get (AList.erase _ state.manager.deletedDevices) device.key = some expiresAt
    rw [Table.get_erase, if_neg (condition device before named (of_decide_eq_true different))]
    exact found
  absent device removed := tidy.absent device (Bool.and_eq_true_iff.mp removed).1

theorem tidy_step {state : Removing} (tidy : Tidy state) (event : ManagerEvent)
    (condition : RemovalCondition state event) : Tidy (state.step event) := by
  cases event with
  | latestPoints nowMs message =>
      exact tidy.of_origin (state.manager.deletedDevices_onLatestPointsMessage nowMs message)
        fun node => origin_latestPoints
  | devicesSnapshot nowMs message =>
      exact tidy.of_origin rfl fun node => origin_devicesSnapshot tidy.addressed
  | markAllDevicesOffline reason =>
      exact tidy.of_origin rfl fun node held => origin_markAll held 0
  | refreshOfflineStates nowMs timeoutMs =>
      exact tidy.of_origin (state.manager.deletedDevices_refreshOfflineStates nowMs timeoutMs)
        fun node => origin_refresh
  | removeDeviceData nowMs gatewayId portId deviceId =>
      exact tidy_removeDeviceData tidy condition gatewayId portId deviceId
  | removeMasterData nowMs gatewayId portId => exact tidy_removeMasterData tidy condition
  | forgetRemovedDevice gatewayId portId deviceId => exact tidy_forgetRemovedDevice tidy condition
  | clearRuntimeData =>
      refine tidy.of_origin rfl fun node held => @origin_of_holds state.manager node ?_ 0
      rcases held with ⟨own, found⟩ | ⟨own, data, found, -⟩
      · exact Or.inl ⟨own, found⟩
      · cases found

/-- What appears is in a store. -/
theorem holds_of_appears {manager : DataManager} {device : DeviceId}
    (appears : Appears manager device) :
    exists node, manager.Holds node ∧ node.id = device := by
  rcases appears with ⟨node, inside, named⟩ | ⟨data, inside, named⟩
  · rw [DataManager.deviceTreeSnapshot, KeyedStore.mem_values, get_foldl_overlay] at inside
    cases live : manager.realtime.get node.key with
    | none =>
        rw [live] at inside
        exact ⟨node, Or.inl ⟨node.key, inside⟩, named⟩
    | some data =>
        rw [live] at inside
        have laid : forall base, base.Identified -> overlaid base data.node = node ->
            base.id = device := by
          rintro base identified rfl
          have same := overlaid_identity identified data.node
          rw [← named, DeviceNode.id, DeviceNode.id, same.2.2.1, same.2.2.2.1, same.2.2.2.2]
        cases base : manager.devices.get node.key with
        | none =>
            rw [base] at inside
            exact ⟨data.node, Or.inr ⟨node.key, data, live, rfl⟩,
              laid data.node (RealtimeMap.identified live) (Option.some.inj inside)⟩
        | some base' =>
            rw [base] at inside
            exact ⟨base', Or.inl ⟨node.key, base⟩,
              laid base' (KeyedStore.proper_of_get base) (Option.some.inj inside)⟩
  · exact ⟨data.node, Or.inr ⟨_, data, KeyedStore.mem_values.mp inside, rfl⟩, named⟩

theorem Tidy.staysRemoved {state : Removing} (tidy : Tidy state) : StaysRemoved state := by
  intro device removed appears
  rcases holds_of_appears appears with ⟨node, held, named⟩
  exact tidy.absent device removed node held named

theorem tidy_start : Tidy Removing.start where
  addressed node held := by
    rcases held with ⟨own, found⟩ | ⟨own, data, found, -⟩
    · cases found
    · cases found
  remembered device removed := by cases removed
  absent device removed := by cases removed

/-- In a run whose steps meet the condition no removed device appears again
before it is forgotten. -/
theorem stays_removed_run {events : List ManagerEvent}
    (admissible : removalSystem.Admissible RemovalCondition events)
    {before after : List ManagerEvent} (split : events = before ++ after) :
    StaysRemoved (removalSystem.run before) := by
  rw [split] at admissible
  have tidy : Tidy (removalSystem.run before) :=
    removalSystem.invariant_run tidy_start (fun _ => fun event tidy => tidy_step tidy event)
      (removalSystem.admissible_initial admissible)
  exact tidy.staysRemoved

/-- A point of device 3, received at 1000. -/
def presentPoint : Json :=
  .obj [("factoryId", .str "factory_001"), ("areaId", .str "area_001"),
    ("gatewayId", .str "gateway_001"), ("portId", .str "port_001"), ("deviceId", .int 3),
    ("deviceType", .str "meter"), ("pointKey", .str "voltage"), ("valid", .bool true),
    ("timestampMs", .int 1000), ("receiveTimeMs", .int 1000)]

def presentMessage : Json :=
  .obj [("type", .str "latest_points"), ("points", .arr [presentPoint])]

/-- The device is removed and does not come back with its points. -/
theorem present_stays_removed :
    StaysRemoved (removalSystem.run [.latestPoints 1000 presentMessage,
      .removeDeviceData 2000 "gateway_001" "port_001" 3, .latestPoints 3000 presentMessage]) :=
  @stays_removed_run [.latestPoints 1000 presentMessage,
    .removeDeviceData 2000 "gateway_001" "port_001" 3, .latestPoints 3000 presentMessage]
    ⟨trivial, (by decide : (0 : Int) < 2000), trivial, trivial⟩ _ [] rfl

/-- The realtime map is cleared, the port is removed, and the device is back. -/
theorem present_comes_back :
    ¬ StaysRemoved (removalSystem.run [.latestPoints 1000 presentMessage, .clearRuntimeData,
      .removeMasterData 2000 "gateway_001" "port_001", .latestPoints 3000 presentMessage]) := by
  intro stays
  have gone := stays ⟨"gateway_001", "port_001", 3⟩ (by decide +kernel)
  have shown : (removalSystem.run [.latestPoints 1000 presentMessage, .clearRuntimeData,
      .removeMasterData 2000 "gateway_001" "port_001",
      .latestPoints 3000 presentMessage]).manager.allRealtimeData.any
      (fun data => data.node.id = ⟨"gateway_001", "port_001", 3⟩) = true := by
    decide +kernel
  rcases List.any_eq_true.mp shown with ⟨data, inside, named⟩
  exact gone (Or.inr ⟨data, inside, of_decide_eq_true named⟩)

end Realtime
end Ui
end Imx6Gateway
