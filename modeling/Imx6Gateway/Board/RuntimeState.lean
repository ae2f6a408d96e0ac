import Imx6Gateway.Board.ConfigExport

namespace Imx6Gateway
namespace Board

open Library

/-!
# The runtime state of the ports

`createRuntimeStateLocked` writes both ports and their devices for the
interface on the board.  A port that is not open is shown with the values of
its saved configuration.
-/

attribute [local instance] slots_neZero

/-- One entry of `devices[]`. -/
def runtimeDevice (device : ManagedDevice) : Json :=
  .obj [("deviceId", jsonInt device.slaveId),
    ("deviceName", .str (copyText 64 ("Device " ++ toString device.slaveId.toInt))),
    ("deviceType", .str (deviceTypeName device.deviceType)),
    ("pollIntervalMs", jsonInt device.pollIntervalMs)]

/-- One entry of `ports[]`. -/
def runtimePort (slot : Slot) (channel : PortChannel) (saved : Option SavedPortConfig) : Json :=
  let displayPort :=
    if channel.port ≠ "" then channel.port else (saved.map SavedPortConfig.port).getD ""
  let displayBaud :=
    if 0 < channel.baud.toInt then channel.baud else (saved.map SavedPortConfig.baud).getD 0
  .obj [("slot", jsonInt (slotNumber slot)), ("portId", .str (portIdForSlot slot)),
    ("portName", .str (portNameForSlot slot)), ("port", .str displayPort),
    ("baud", jsonInt displayBaud), ("connected", .bool channel.connected),
    ("auto_restore", .bool ((saved.map SavedPortConfig.autoRestore).getD true)),
    ("devices", .arr (channel.devices.map runtimeDevice))]

def runtimePorts (state : PortManager) (saved : Slot -> Option SavedPortConfig) : List Json :=
  ([0, 1] : List Slot).map fun slot => runtimePort slot (state.channels slot) (saved slot)

/-- `createRuntimeStateLocked`, with the configurations that were read before
the lock was taken. -/
def createRuntimeState (state : PortManager) (saved : Slot -> Option SavedPortConfig)
    (seq : UInt32) (cmd : Option String) (nowMs : Int64) : Json :=
  .obj [("type", .str "runtime_state"), ("seq", .int seq.toNat),
    ("cmd", .str (cmd.getD "get_runtime_state")), ("timestampMs", .int nowMs.toInt),
    ("ports", .arr (runtimePorts state saved))]

theorem wire_runtimeDevice (depth : Nat) (device : ManagedDevice) :
    (runtimeDevice device).Wire (depth + 1) := by
  simp [runtimeDevice, Json.wire_obj_succ, wire_jsonInt]

theorem wire_runtimePort (depth : Nat) (slot : Slot) (channel : PortChannel)
    (saved : Option SavedPortConfig) : (runtimePort slot channel saved).Wire (depth + 3) := by
  have devices : (Json.arr (channel.devices.map runtimeDevice)).Wire (depth + 2) := by
    rw [Json.wire_arr_succ]
    intro item inside
    rcases List.mem_map.mp inside with ⟨device, -, rfl⟩
    exact wire_runtimeDevice depth device
  simp [runtimePort, Json.wire_obj_succ, wire_jsonInt, devices]

theorem wire_createRuntimeState (state : PortManager) (saved : Slot -> Option SavedPortConfig)
    (seq : UInt32) (cmd : Option String) (nowMs : Int64) :
    (createRuntimeState state saved seq cmd nowMs).Wire Json.maxDepth := by
  have ports : (Json.arr (runtimePorts state saved)).Wire 30 := by
    rw [Json.wire_arr_succ]
    intro item inside
    rcases List.mem_map.mp inside with ⟨slot, -, rfl⟩
    exact wire_runtimePort 26 slot _ _
  have number : (Json.int seq.toNat).Wire 30 := by
    have bound := seq.toNat_lt
    rw [Json.wire_int]
    omega
  have time : (Json.int nowMs.toInt).Wire 30 := by
    have low := nowMs.le_toInt
    have high := nowMs.toInt_lt
    rw [Json.wire_int]
    omega
  simp [createRuntimeState, Json.maxDepth, Json.wire_obj_succ, ports, number, time]

end Board
end Imx6Gateway
