import Imx6Gateway.Board.PortInvariant
import Imx6Gateway.Board.RuntimeState
import Imx6Gateway.LocalUi.PortSnapshot

namespace Imx6Gateway
namespace Link

open Library Board

/-!
# The ports on the board's own screen

The interface on the board reads the runtime state that the port manager
writes.  Whatever both did before, it then shows the ports and the devices of
the port manager: no device is missing, none is left over, none is shown twice.
-/

attribute [local instance] slots_neZero

open LocalUi (SlaveDeviceInfo Widget widgetSystem)

/-- A device as the interface names it. -/
def shownDevice (device : ManagedDevice) : Int × String :=
  (device.slaveId.toInt, deviceTypeName device.deviceType)

theorem shownDevice_nodup {devices : List ManagedDevice} (holds : DevicesWellFormed devices) :
    (devices.map shownDevice).Nodup := by
  apply List.Nodup.of_map Prod.fst
  rw [List.map_map]
  change (devices.map fun device => device.slaveId.toInt).Nodup
  rw [show (fun device : ManagedDevice => device.slaveId.toInt) =
    Int32.toInt ∘ ManagedDevice.slaveId from rfl, ← List.map_map]
  exact holds.distinct.map fun _ _ same => Int32.toInt_inj.mp same

theorem intOr_jsonInt (value : Int32) (other : Int) :
    Ui.intOr (some (jsonInt value)) other = value.toInt :=
  if_pos ⟨value.le_toInt, value.toInt_lt⟩

theorem snapshotDevice_runtimeDevice {device : ManagedDevice} (pollable : device.Pollable) :
    exists name, Widget.snapshotDevice (runtimeDevice device) =
      some (device.slaveId.toInt, name, deviceTypeName device.deviceType) := by
  have named : deviceTypeName device.deviceType ≠ "" := by
    cases device.deviceType <;> decide
  have address := intOr_jsonInt device.slaveId
  have valid : ¬ (device.slaveId.toInt ≤ 0 ∨ deviceTypeName device.deviceType = "") :=
    not_or.mpr ⟨not_le.mpr pollable.address, named⟩
  refine ⟨copyText 64 ("Device " ++ toString device.slaveId.toInt), ?_⟩
  have found : (runtimeDevice device).lookup "deviceId" = some (jsonInt device.slaveId) := rfl
  have typed : (runtimeDevice device).lookup "deviceType" =
      some (.str (deviceTypeName device.deviceType)) := rfl
  rw [runtimeDevice] at found typed ⊢
  rw [Widget.snapshotDevice, found, typed, address]
  exact if_neg valid

theorem snapshotDevices_runtimePort {slot : Slot} {channel : PortChannel}
    (holds : DevicesWellFormed channel.devices) (saved : Option SavedPortConfig) :
    (Widget.snapshotDevices (runtimePort slot channel saved)).map
        (fun device => (device.1, device.2.2)) = channel.devices.map shownDevice := by
  have listed : (runtimePort slot channel saved).lookup "devices" =
      some (.arr (channel.devices.map runtimeDevice)) := rfl
  rw [Widget.snapshotDevices, listed, LocalUi.toArray]
  have each := holds.pollable
  generalize channel.devices = devices at each ⊢
  induction devices with
  | nil => rfl
  | cons device devices ih =>
      rcases snapshotDevice_runtimeDevice (each device List.mem_cons_self) with ⟨name, read⟩
      rw [List.map_cons, List.filterMap_cons, read, List.map_cons, List.map_cons,
        ih fun other inside => each other (List.mem_cons_of_mem device inside)]
      rfl

theorem slotNumber_nonneg (slot : Slot) : 0 ≤ (slotNumber slot).toInt := by
  revert slot
  decide

theorem snapshotPort_runtimePort (slot : Slot) (channel : PortChannel)
    (saved : Option SavedPortConfig) :
    Widget.snapshotPort (runtimePort slot channel saved) =
      some ((slotNumber slot).toInt, runtimePort slot channel saved) := by
  have found : (runtimePort slot channel saved).lookup "slot" = some (jsonInt (slotNumber slot)) :=
    rfl
  rw [runtimePort] at found ⊢
  rw [Widget.snapshotPort, found, intOr_jsonInt]
  exact if_neg (not_lt.mpr (slotNumber_nonneg slot))

theorem slotNumber_toInt_inj {first second : Slot} :
    (slotNumber first).toInt = (slotNumber second).toInt ↔ first = second := by
  revert first second
  decide

section Shown

variable (state : PortManager) (saved : Slot -> Option SavedPortConfig)

theorem filterMap_runtimePorts :
    (runtimePorts state saved).filterMap Widget.snapshotPort =
      ([0, 1] : List Slot).map fun slot =>
        ((slotNumber slot).toInt, runtimePort slot (state.channels slot) (saved slot)) := by
  rw [runtimePorts, List.filterMap_map]
  have every : forall slots : List Slot,
      slots.filterMap (Widget.snapshotPort ∘ fun slot =>
        runtimePort slot (state.channels slot) (saved slot)) =
      slots.map fun slot =>
        ((slotNumber slot).toInt, runtimePort slot (state.channels slot) (saved slot)) := by
    intro slots
    induction slots with
    | nil => rfl
    | cons slot slots ih =>
        rw [List.filterMap_cons, Function.comp_apply, snapshotPort_runtimePort, List.map_cons, ih]
  exact every [0, 1]

theorem mem_slots (slot : Slot) : slot ∈ ([0, 1] : List Slot) := by
  revert slot
  decide

theorem snapshotSlots_runtimePorts :
    Widget.snapshotSlots (runtimePorts state saved) = [0, 1] := by
  rw [Widget.snapshotSlots, filterMap_runtimePorts]
  rfl

theorem mem_snapshotSlots (slot : Slot) :
    (slotNumber slot).toInt ∈ Widget.snapshotSlots (runtimePorts state saved) := by
  rw [snapshotSlots_runtimePorts]
  revert slot
  decide

/-- The slaves of a slot in the snapshot are the devices of its channel. -/
theorem mem_snapshotKeys_iff {state : PortManager} (consistent : state.Consistent)
    (saved : Slot -> Option SavedPortConfig) (slot : Slot) (shown : Int × String) :
    ((slotNumber slot).toInt, shown) ∈ Widget.snapshotKeys (runtimePorts state saved) ↔
      shown ∈ (state.channels slot).devices.map shownDevice := by
  rw [Widget.snapshotKeys, filterMap_runtimePorts, List.flatMap_map, List.mem_flatMap]
  have devices := fun slot =>
    @snapshotDevices_runtimePort slot _ (consistent.channel slot).devices (saved slot)
  constructor
  · rintro ⟨other, -, inside⟩
    rcases List.mem_map.mp inside with ⟨device, listed, same⟩
    injection same with number rest
    rw [slotNumber_toInt_inj] at number
    subst number
    rw [← devices, ← rest]
    exact List.mem_map.mpr ⟨device, listed, rfl⟩
  · intro inside
    rw [← devices] at inside
    rcases List.mem_map.mp inside with ⟨device, listed, same⟩
    exact ⟨slot, mem_slots slot, List.mem_map.mpr ⟨device, listed, by rw [← same]⟩⟩

/-- A port is connected in the snapshot if its channel is. -/
theorem connected_runtimePorts (slot : Slot) :
    (exists object, ((slotNumber slot).toInt, object) ∈
        (runtimePorts state saved).filterMap Widget.snapshotPort ∧
        Ui.boolOr (object.lookup "connected") false = true) ↔
      (state.channels slot).connected = true := by
  rw [filterMap_runtimePorts]
  constructor
  · rintro ⟨object, inside, connected⟩
    rcases List.mem_map.mp inside with ⟨other, -, same⟩
    injection same with number port
    rw [slotNumber_toInt_inj] at number
    subst number
    rw [← port] at connected
    exact connected
  · intro connected
    exact ⟨_, List.mem_map.mpr ⟨slot, mem_slots slot, rfl⟩, connected⟩

end Shown

/-- The slaves that the interface shows for a slot. -/
def shownSlaves (widget : Widget) (slot : Slot) : List (Int × String) :=
  (widget.slaveDevices.filter fun slave => slave.masterSlot = (slotNumber slot).toInt).map
    fun slave => (slave.slaveAddr, slave.deviceType)

theorem mem_shownSlaves {widget : Widget} {slot : Slot} {shown : Int × String} :
    shown ∈ shownSlaves widget slot ↔
      ((slotNumber slot).toInt, shown) ∈ widget.slaveDevices.map SlaveDeviceInfo.key := by
  rw [shownSlaves, List.mem_map, List.mem_map]
  constructor
  · rintro ⟨slave, inside, rfl⟩
    rcases List.mem_filter.mp inside with ⟨listed, same⟩
    exact ⟨slave, listed, by rw [SlaveDeviceInfo.key, of_decide_eq_true same]⟩
  · rintro ⟨slave, listed, same⟩
    injection same with number rest
    exact ⟨slave, List.mem_filter.mpr ⟨listed, decide_eq_true number⟩, rest⟩

theorem shownSlaves_nodup {widget : Widget} (holds : widget.WellFormed) (slot : Slot) :
    (shownSlaves widget slot).Nodup := by
  have kept : (widget.slaveDevices.filter fun slave =>
      slave.masterSlot = (slotNumber slot).toInt).Sublist widget.slaveDevices :=
    List.filter_sublist
  have keys : (shownSlaves widget slot).map (fun shown => ((slotNumber slot).toInt, shown)) =
      (widget.slaveDevices.filter fun slave =>
        slave.masterSlot = (slotNumber slot).toInt).map SlaveDeviceInfo.key := by
    rw [shownSlaves, List.map_map]
    apply List.map_congr_left
    intro slave inside
    have same := of_decide_eq_true (List.mem_filter.mp inside).2
    rw [SlaveDeviceInfo.key, same, Function.comp_apply]
  apply List.Nodup.of_map fun shown => ((slotNumber slot).toInt, shown)
  rw [keys]
  exact holds.slaves.distinct.sublist (kept.map _)

section Run

variable (getFloat : Json -> Limit) (library : JsonC) (doubleOfText : String -> Rat)
  (fromJson : String -> Option Json)

theorem takeFrame_runtimeState
    (reads : forall json, json.Wire Json.maxDepth -> fromJson (library.print json) = some json)
    (widget : Widget) (env : LocalUi.Surroundings) (state : PortManager)
    (saved : Slot -> Option SavedPortConfig) (seq : UInt32) (cmd : Option String) (nowMs : Int64) :
    widget.takeFrame doubleOfText fromJson env
        (library.print (createRuntimeState state saved seq cmd nowMs)) =
      widget.handleRuntimeStateSnapshot (runtimePorts state saved) := by
  have parsed := reads _ (wire_createRuntimeState state saved seq cmd nowMs)
  unfold Widget.takeFrame
  rw [parsed, createRuntimeState]
  rfl

/-- After any run of the interface and any run of the port manager, a runtime
state makes the interface show the connected ports and the devices of each. -/
theorem runtime_state_shown
    (reads : forall json, json.Wire Json.maxDepth -> fromJson (library.print json) = some json)
    (file : Option Json) (portEvents : List PortEvent)
    (uiEvents : List (LocalUi.Surroundings × Widget.Event)) (env : LocalUi.Surroundings)
    (saved : Slot -> Option SavedPortConfig) (seq : UInt32) (cmd : Option String) (nowMs : Int64) :
    exists widget, (widgetSystem doubleOfText fromJson).run (uiEvents ++
        [(env, .received (library.print (createRuntimeState
          ((portSystem getFloat library file).run portEvents) saved seq cmd nowMs)))]) =
        some widget ∧
      forall slot : Slot,
        ((slotNumber slot).toInt ∈ widget.connectedMasterSlots ↔
          (((portSystem getFloat library file).run portEvents).channels slot).connected = true) ∧
        (shownSlaves widget slot).Perm
          ((((portSystem getFloat library file).run portEvents).channels slot).devices.map
            shownDevice) := by
  generalize reached : (portSystem getFloat library file).run portEvents = state
  have consistent : state.Consistent :=
    reached ▸ ports_consistent_run getFloat library file portEvents
  rcases LocalUi.widget_wellFormed_run doubleOfText fromJson uiEvents with ⟨before, run, holds⟩
  have distinct : (Widget.snapshotSlots (runtimePorts state saved)).Nodup := by
    rw [snapshotSlots_runtimePorts]
    decide
  rcases Widget.handleRuntimeStateSnapshot_spec holds distinct
    with ⟨widget, taken, wellFormed, slaves, connected⟩
  refine ⟨widget, ?_, ?_⟩
  · rw [TransitionSystem.run, TransitionSystem.runFrom_append, ← TransitionSystem.run, run]
    exact (takeFrame_runtimeState library doubleOfText fromJson reads before env state saved seq cmd
      nowMs).trans taken
  · intro slot
    have named := mem_snapshotSlots state saved slot
    constructor
    · rw [connected, connected_runtimePorts]
      exact or_iff_left fun unnamed => unnamed.1 named
    · have devices := shownDevice_nodup (consistent.channel slot).devices
      rw [List.perm_ext_iff_of_nodup (shownSlaves_nodup wellFormed slot) devices]
      intro shown
      rw [mem_shownSlaves, slaves, mem_snapshotKeys_iff consistent]
      exact or_iff_left fun unnamed => unnamed.1 named

/-- A relay at the first port, and an interface that has just connected. -/
def relayConnected : List PortEvent :=
  [.connectPort 0 (some "/dev/ttymxc2") 9600 ⟨true, .written 0⟩,
    .addDevice 0 ⟨3, some "relay", 1000, none, true⟩ (.written 0)]

theorem runtime_state_shown_relay :
    exists widget, (widgetSystem (fun _ => 0) JsonText.parse).run
        ([(⟨0, fun _ => true⟩, .connected)] ++
          [(⟨0, fun _ => true⟩, .received (JsonC.jsonText.print (createRuntimeState
            ((portSystem (fun _ => none) JsonC.jsonText none).run relayConnected) (fun _ => none)
            1 none 0)))]) = some widget ∧
      forall slot : Slot,
        ((slotNumber slot).toInt ∈ widget.connectedMasterSlots ↔
          (((portSystem (fun _ => none) JsonC.jsonText none).run relayConnected).channels
            slot).connected = true) ∧
        (shownSlaves widget slot).Perm
          ((((portSystem (fun _ => none) JsonC.jsonText none).run relayConnected).channels
            slot).devices.map shownDevice) :=
  runtime_state_shown (fun _ => none) JsonC.jsonText (fun _ => 0) JsonText.parse
    (JsonText.parse_print true) none relayConnected _ _ _ _ _ _

end Run

end Link
end Imx6Gateway
