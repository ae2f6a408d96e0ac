import Imx6Gateway.Board.PortManager
import Mathlib.Data.List.Nodup

namespace Imx6Gateway
namespace Board

open Library

/-!
# What holds of the two channels in every state

The devices of a channel can be polled and have addresses of their own; a
channel that is not connected has no bus and no devices; two connected
channels have different ports.  The file is not trusted for any of it: the
devices are checked when they are read, whoever wrote them.
-/

/-! ## The devices of one channel -/

/-- A device on the bus: an address, and an interval that is not too short. -/
structure ManagedDevice.Pollable (device : ManagedDevice) : Prop where
  address : 0 < device.slaveId.toInt
  interval : kMinPollIntervalMs ≤ device.pollIntervalMs.toInt

structure DevicesWellFormed (devices : List ManagedDevice) : Prop where
  pollable : forall device, device ∈ devices -> device.Pollable
  distinct : (devices.map ManagedDevice.slaveId).Nodup

theorem hasSlave_eq_false_iff {devices : List ManagedDevice} {slaveId : Int32} :
    hasSlave devices slaveId = false ↔ slaveId ∉ devices.map ManagedDevice.slaveId := by
  simp [hasSlave]

theorem pollable_createSensorDevice (type : ManagedType) {slaveId pollIntervalMs : Int32}
    (config : Option RequestedThresholds) (address : 0 < slaveId.toInt)
    (interval : kMinPollIntervalMs ≤ pollIntervalMs.toInt) :
    (createSensorDevice type slaveId pollIntervalMs config).Pollable :=
  ⟨address, interval⟩

namespace DevicesWellFormed

theorem nil : DevicesWellFormed [] := ⟨by simp, List.nodup_nil⟩

theorem push {devices : List ManagedDevice} (holds : DevicesWellFormed devices)
    {device : ManagedDevice} (pollable : device.Pollable)
    (fresh : hasSlave devices device.slaveId = false) : DevicesWellFormed (devices ++ [device]) where
  pollable := by
    intro other member
    rcases List.mem_append.mp member with old | new
    · exact holds.pollable other old
    · rw [List.mem_singleton.mp new]
      exact pollable
  distinct := by
    rw [List.map_append]
    exact holds.distinct.append (List.nodup_singleton _)
      (List.disjoint_singleton.mpr (hasSlave_eq_false_iff.mp fresh))

theorem sublist {devices fewer : List ManagedDevice} (holds : DevicesWellFormed devices)
    (kept : fewer.Sublist devices) : DevicesWellFormed fewer where
  pollable device member := holds.pollable device (kept.subset member)
  distinct := holds.distinct.sublist (kept.map _)

theorem perm {devices others : List ManagedDevice} (holds : DevicesWellFormed devices)
    (same : others.Perm devices) : DevicesWellFormed others where
  pollable device member := holds.pollable device (same.mem_iff.mp member)
  distinct := (same.map _).nodup_iff.mpr holds.distinct

/-- Only the addresses and the intervals count. -/
theorem of_map_eq {devices others : List ManagedDevice} (holds : DevicesWellFormed devices)
    (same : others.map (fun device => (device.slaveId, device.pollIntervalMs)) =
      devices.map fun device => (device.slaveId, device.pollIntervalMs)) :
    DevicesWellFormed others where
  pollable := by
    intro device member
    have listed := List.mem_map_of_mem
      (f := fun device : ManagedDevice => (device.slaveId, device.pollIntervalMs)) member
    rw [same] at listed
    rcases List.mem_map.mp listed with ⟨old, inside, equal⟩
    have pollable := holds.pollable old inside
    rcases Prod.mk.inj equal with ⟨address, interval⟩
    exact ⟨address ▸ pollable.address, interval ▸ pollable.interval⟩
  distinct := by
    have addresses := congrArg (List.map Prod.fst) same
    rw [List.map_map, List.map_map] at addresses
    exact (congrArg List.Nodup addresses).mpr holds.distinct

end DevicesWellFormed

theorem setThresholdConfig_bus (device : ManagedDevice) (config : RequestedThresholds) :
    (device.setThresholdConfig config).slaveId = device.slaveId ∧
      (device.setThresholdConfig config).pollIntervalMs = device.pollIntervalMs := by
  unfold ManagedDevice.setThresholdConfig
  split <;> exact ⟨rfl, rfl⟩

theorem map_withThreshold (devices : List ManagedDevice) (slaveId : Int32)
    (config : RequestedThresholds) :
    ((withThreshold devices slaveId config).map fun device =>
        (device.slaveId, device.pollIntervalMs)) =
      devices.map fun device => (device.slaveId, device.pollIntervalMs) := by
  induction devices with
  | nil => rfl
  | cons device devices ih =>
      rw [withThreshold] at ih ⊢
      rw [List.replaceF_cons]
      by_cases named : device.slaveId = slaveId
      · rw [if_pos named, List.map_cons, List.map_cons,
          (setThresholdConfig_bus device config).1, (setThresholdConfig_bus device config).2]
      · rw [if_neg named, List.map_cons, List.map_cons, ih]

/-- The device that was taken out, put back at the end. -/
theorem withoutSlave_perm {devices : List ManagedDevice} {slaveId : Int32}
    {removed : ManagedDevice}
    (found : (devices.find? fun device => device.slaveId = slaveId) = some removed) :
    (withoutSlave devices slaveId ++ [removed]).Perm devices := by
  rcases List.find?_eq_some_iff_append.mp found with ⟨named, before, after, rfl, earlier⟩
  have split : withoutSlave (before ++ removed :: after) slaveId = before ++ after := by
    rw [withoutSlave, List.eraseP_append_right _, List.eraseP_cons_of_pos (by exact named)]
    intro device member matching
    have other := earlier device member
    rw [matching] at other
    cases other
  rw [split]
  exact (List.perm_append_singleton removed _).trans List.perm_middle.symm

section Loading

variable (getFloat : Json -> Limit) (library : JsonC)

theorem pollable_of_savedDevice {slot : Slot} {port : String} {item : Json}
    {device : ManagedDevice} (read : savedDevice getFloat library slot port item = some device) :
    device.Pollable := by
  unfold savedDevice at read
  dsimp only at read
  split at read
  · cases read
  · split at read
    · cases read
    · split at read
      · cases read
      · rename_i checked
        rcases not_or.mp checked with ⟨address, interval⟩
        rcases Option.map_eq_some_iff.mp read with ⟨type, -, rfl⟩
        exact pollable_createSensorDevice type _ (not_le.mp address) (not_lt.mp interval)

theorem wellFormed_loadDevice (slot : Slot) (port : String) {devices : List ManagedDevice}
    (holds : DevicesWellFormed devices) (item : Json) :
    DevicesWellFormed (loadDevice getFloat library slot port devices item) := by
  unfold loadDevice
  split
  · rename_i device read
    split
    · exact holds
    · rename_i fresh
      exact holds.push (pollable_of_savedDevice getFloat library read)
        (Bool.eq_false_iff.mpr fresh)
  · exact holds

/-- Whatever the file says, what is loaded from it is well formed. -/
theorem wellFormed_loadDevices (slot : Slot) (port : String) (items : List Json)
    {devices : List ManagedDevice} (holds : DevicesWellFormed devices) :
    DevicesWellFormed (items.foldl (loadDevice getFloat library slot port) devices) := by
  induction items generalizing devices with
  | nil => exact holds
  | cons item items ih => exact ih (wellFormed_loadDevice getFloat library slot port holds item)

end Loading

/-! ## Both channels -/

structure PortChannel.WellFormed (channel : PortChannel) : Prop where
  devices : DevicesWellFormed channel.devices
  idle : channel.connected = false -> channel.bus = none ∧ channel.devices = []

theorem PortChannel.wellFormed_of_idle {channel : PortChannel} (bus : channel.bus = none)
    (devices : channel.devices = []) : channel.WellFormed where
  devices := by
    rw [devices]
    exact DevicesWellFormed.nil
  idle _ := ⟨bus, devices⟩

structure PortManager.Consistent (state : PortManager) : Prop where
  channel : forall slot, (state.channels slot).WellFormed
  separate : forall first second, first ≠ second -> (state.channels first).connected = true ->
    (state.channels second).connected = true ->
    (state.channels first).port ≠ (state.channels second).port

namespace PortManager

/-- Nothing about the file is needed. -/
theorem Consistent.of_channels {state other : PortManager} (holds : state.Consistent)
    (same : other.channels = state.channels) : other.Consistent where
  channel := by
    rw [same]
    exact holds.channel
  separate := by
    rw [same]
    exact holds.separate

theorem consistent_constructed (file : Option Json) : (constructed file).Consistent where
  channel _ := PortChannel.wellFormed_of_idle rfl rfl
  separate := by
    intro first second _ connected
    cases connected

/-- One channel is replaced, by one whose port no other connected channel has. -/
theorem Consistent.setChannel {state : PortManager} (holds : state.Consistent) {slot : Slot}
    {channel : PortChannel} (wellFormed : channel.WellFormed)
    (unused : channel.connected = true -> forall other, other ≠ slot ->
      (state.channels other).connected = true -> (state.channels other).port ≠ channel.port) :
    (state.setChannel slot channel).Consistent where
  channel := by
    intro other
    by_cases same : other = slot
    · subst same
      rw [setChannel_self]
      exact wellFormed
    · rw [setChannel_other state channel same]
      exact holds.channel other
  separate := by
    intro first second different firstConnected secondConnected
    by_cases atFirst : first = slot
    · subst atFirst
      rw [setChannel_self] at firstConnected
      rw [setChannel_other state channel different.symm] at secondConnected
      rw [setChannel_self, setChannel_other state channel different.symm]
      exact (unused firstConnected second different.symm secondConnected).symm
    · rw [setChannel_other state channel atFirst] at firstConnected ⊢
      by_cases atSecond : second = slot
      · subst atSecond
        rw [setChannel_self] at secondConnected ⊢
        exact unused secondConnected first atFirst firstConnected
      · rw [setChannel_other state channel atSecond] at secondConnected ⊢
        exact holds.separate first second different firstConnected secondConnected

/-- The devices of a connected channel are replaced. -/
theorem Consistent.setDevices {state : PortManager} (holds : state.Consistent) {slot : Slot}
    (connected : (state.channels slot).connected = true) {devices : List ManagedDevice}
    (wellFormed : DevicesWellFormed devices) :
    (state.setChannel slot { state.channels slot with devices := devices }).Consistent := by
  refine holds.setChannel ⟨wellFormed, ?_⟩ ?_
  · intro closed
    rw [connected] at closed
    cases closed
  · intro _ other different otherConnected
    exact holds.separate other slot different otherConnected connected

end PortManager

open PortManager

/-- Whichever way the write ends. -/
theorem consistent_commitDevices {state : PortManager} (holds : state.Consistent) {slot : Slot}
    (connected : (state.channels slot).connected = true) {changed restored : List ManagedDevice}
    (changedWellFormed : DevicesWellFormed changed)
    (restoredWellFormed : DevicesWellFormed restored) (success : String)
    (outcome : WriteOutcome) :
    (commitDevices state slot changed restored success outcome).2.Consistent := by
  cases outcome with
  | written nowMs => exact (holds.setDevices connected changedWellFormed).of_channels rfl
  | failed left =>
      exact (holds.setDevices connected restoredWellFormed).of_channels (Function.update_idem ..)

section Steps

variable (getFloat : Json -> Limit) (library : JsonC)

theorem consistent_openedPort {state : PortManager} (holds : state.Consistent) {slot : Slot}
    {port : String} (unused : isPortUsedByOtherSlot state slot port = false) (baud : Int32) :
    (openedPort getFloat library state slot port baud).Consistent := by
  rw [openedPort, loadDevicesForSlotLocked, setChannel_setChannel, setChannel_self]
  refine holds.setChannel ⟨wellFormed_loadDevices getFloat library slot port _ .nil, ?_⟩ ?_
  · intro closed
    cases closed
  · exact fun _ => isPortUsedByOtherSlot_eq_false_iff.mp unused

theorem consistent_connectPort {state : PortManager} (holds : state.Consistent) (slot : Int32)
    (port : Option String) (baud : Int32) (outcome : ConnectOutcome) :
    (connectPort getFloat library state slot port baud outcome).2.Consistent := by
  rcases connectPort_cases getFloat library state slot port baud outcome with
    same | ⟨index, name, -, -, unused, cleared | opened⟩
  · rw [same]
    exact holds
  · rw [cleared]
    refine holds.setChannel (PortChannel.wellFormed_of_idle rfl rfl) ?_
    intro connected
    cases connected
  · rw [opened]
    exact (consistent_openedPort getFloat library holds unused baud).of_channels
      (writeConfigLocked_channels _ _)

theorem consistent_disconnectPort {state : PortManager} (holds : state.Consistent)
    (slot : Int32) : (disconnectPort state slot).2.Consistent := by
  rcases disconnectPort_cases state slot with same | ⟨index, closed⟩
  · rw [same]
    exact holds
  · rw [closed]
    refine holds.setChannel (PortChannel.wellFormed_of_idle rfl rfl) ?_
    intro connected
    cases connected

theorem consistent_addDevice {state : PortManager} (holds : state.Consistent) (slot : Int32)
    (request : AddRequest) (outcome : WriteOutcome) :
    (addDevice state slot request outcome).2.Consistent := by
  rcases addDevice_cases state slot request outcome with
    ⟨reason, same⟩ | ⟨index, type, -, -, address, interval, connected, fresh, committed⟩
  · rw [same]
    exact holds
  · have old := (holds.channel index).devices
    rw [committed]
    exact consistent_commitDevices holds connected
      (old.push (pollable_createSensorDevice type _ address interval) fresh) old "" outcome

theorem consistent_setDeviceThreshold {state : PortManager} (holds : state.Consistent)
    (slot slaveId : Int32) (config : Option RequestedThresholds) (outcome : WriteOutcome) :
    (setDeviceThreshold state slot slaveId config outcome).2.Consistent := by
  rcases setDeviceThreshold_cases state slot slaveId config outcome with
    ⟨reason, same⟩ | ⟨index, new, old, -, connected, committed⟩
  · rw [same]
    exact holds
  · have changed := fun config => (holds.channel index).devices.of_map_eq
      (map_withThreshold (state.channels index).devices slaveId config)
    rw [committed]
    exact consistent_commitDevices holds connected (changed new) (changed old) "" outcome

theorem consistent_removeDevice {state : PortManager} (holds : state.Consistent)
    (slot slaveId : Int32) (outcome : WriteOutcome) :
    (removeDevice state slot slaveId outcome).2.Consistent := by
  rcases removeDevice_cases state slot slaveId outcome with
    ⟨reason, same⟩ | ⟨index, removed, -, connected, found, committed⟩
  · rw [same]
    exact holds
  · have old := (holds.channel index).devices
    rw [committed]
    exact consistent_commitDevices holds connected (old.sublist (List.eraseP_sublist))
      (old.perm (withoutSlave_perm found)) "ok" outcome

theorem consistent_restoreSlot (configs : Slot -> Option SavedPortConfig)
    (availablePorts : List String) (outcomes : Slot -> ConnectOutcome) {state : PortManager}
    (holds : state.Consistent) (slot : Slot) :
    (restoreSlot getFloat library configs availablePorts outcomes state slot).Consistent := by
  unfold restoreSlot
  split
  · split
    · exact consistent_connectPort getFloat library holds _ _ _ _
    · exact holds
  · exact holds

theorem consistent_step {state : PortManager} (holds : state.Consistent) (event : PortEvent) :
    (state.step getFloat library event).Consistent := by
  cases event with
  | connectPort slot port baud outcome =>
      exact consistent_connectPort getFloat library holds slot port baud outcome
  | disconnectPort slot => exact consistent_disconnectPort holds slot
  | addDevice slot request outcome => exact consistent_addDevice holds slot request outcome
  | setDeviceThreshold slot slaveId config outcome =>
      exact consistent_setDeviceThreshold holds slot slaveId config outcome
  | removeDevice slot slaveId outcome => exact consistent_removeDevice holds slot slaveId outcome
  | restoreSavedConnections availablePorts outcomes =>
      refine consistent_restoreSlot getFloat library _ availablePorts outcomes ?_ 1
      exact consistent_restoreSlot getFloat library _ availablePorts outcomes holds 0
  | fileReplaced content => exact holds.of_channels rfl
  | restarted => exact consistent_constructed state.file

/-- Both channels are as they should be in every state, whatever the requests,
the file and the outcomes were. -/
theorem ports_consistent_run (file : Option Json) (events : List PortEvent) :
    ((portSystem getFloat library file).run events).Consistent :=
  (portSystem getFloat library file).invariant_everywhere (consistent_constructed file)
    (fun _ event holds => consistent_step getFloat library holds event) events

end Steps

end Board
end Imx6Gateway
