import Imx6Gateway.Board.SavedDevices

namespace Imx6Gateway
namespace Board

open Library

/-!
# Reading back the config file

The file that the port manager writes gives every slot its devices again after
a restart, in their order and with their thresholds.  Only the marks for
running alarms are not in the file.  The numbers of the limits go through
json-c; `Exact` says that a `float` comes back as it was.
-/

/-- `json_object_get_double` and the conversion to `float` give back what
`json_object_new_double` was given. -/
def Exact (getFloat : Json -> Limit) : Prop :=
  forall value : Single, getFloat (jsonSingle value) = some value

/-- What `addDevice` admits, with limits that are numbers; a relay has no
thresholds. -/
structure ManagedDevice.Admitted (device : ManagedDevice) : Prop where
  pollable : device.Pollable
  relay : device.deviceType = .relay -> device.thresholdConfig = none
  finite : forall config, device.thresholdConfig = some config -> config.Finite

/-- Every device of every slot could be admitted, each under an address of its own. -/
structure PortManager.Admitted (state : PortManager) : Prop where
  distinct : forall slot, ((state.channels slot).devices.map ManagedDevice.slaveId).Nodup
  devices : forall slot device, device ∈ (state.channels slot).devices -> device.Admitted

/-- A device of a new process, in which no alarm runs. -/
def ManagedDevice.restarted (device : ManagedDevice) : ManagedDevice :=
  { device with lastTemperatureAlarm := false, lastHumidityAlarm := false }

section Thresholds

variable {getFloat : Json -> Limit} (exact : Exact getFloat)
include exact

theorem jsonGetDoubleAny_limit {limit : Option Limit} (finite : limit ≠ some none)
    (object : Json) (keys : List String)
    (found : getObjectAny object keys = some (limitJson limit)) :
    jsonGetDoubleAny getFloat object keys = limit := by
  rw [jsonGetDoubleAny, found]
  rcases limit with _ | _ | value
  · rfl
  · exact absurd rfl finite
  · exact congrArg some (exact value)

theorem thresholdPointFromJson_toJson {point : RequestedPoint} (finite : point.Finite) :
    thresholdPointFromJson getFloat (thresholdPointToJson point) = point := by
  have low := jsonGetDoubleAny_limit exact finite.1 (thresholdPointToJson point)
    ["alarm_low", "alarmLow"] rfl
  have high := jsonGetDoubleAny_limit exact finite.2 (thresholdPointToJson point)
    ["alarm_high", "alarmHigh"] rfl
  have parsed : thresholdPointFromJson getFloat (thresholdPointToJson point) =
      ⟨point.enableAlarm,
        jsonGetDoubleAny getFloat (thresholdPointToJson point) ["alarm_low", "alarmLow"],
        jsonGetDoubleAny getFloat (thresholdPointToJson point) ["alarm_high", "alarmHigh"]⟩ := rfl
  rw [parsed, low, high]

theorem thresholdConfigFromJson_toJson {config : RequestedThresholds} (finite : config.Finite) :
    thresholdConfigFromJson getFloat (thresholdConfigToJson config) = config := by
  have temperature := thresholdPointFromJson_toJson exact finite.1
  have humidity := thresholdPointFromJson_toJson exact finite.2
  rcases config with ⟨enabled, first, second⟩
  exact congrArg₂ (RequestedThresholds.mk enabled) temperature humidity

end Thresholds

/-! ## The items of the file -/

section Items

variable {getFloat : Json -> Limit} (exact : Exact getFloat) (library : JsonC)

theorem savedDevice_other {slot own : Slot} (different : slot ≠ own) (port : String)
    (device : ManagedDevice) :
    savedDevice getFloat library slot port (deviceItem own device) = none := by
  have named : savedInt (deviceItem own device) "slot" (-1) = slotNumber own :=
    getInt_jsonInt (slotNumber own)
  have foreign : slotNumber own ≠ slotNumber slot := by
    intro same
    have index := validSlot_eq_some_iff.mpr same
    rw [validSlot_eq_some_iff.mpr rfl] at index
    exact different (Option.some.inj index).symm
  unfold savedDevice
  dsimp only
  rw [named, if_pos foreign]

theorem lookup_deviceItem_threshold (slot : Slot) (device : ManagedDevice) :
    (deviceItem slot device).lookup "threshold_config" =
      device.thresholdConfig.map thresholdConfigToJson := by
  rw [deviceItem]
  cases device.thresholdConfig <;> rfl

theorem lookup_deviceItem_port (slot : Slot) (device : ManagedDevice) :
    (deviceItem slot device).lookup "port" = none := by
  rw [deviceItem]
  cases device.thresholdConfig <;> rfl

include exact in
/-- The thresholds of a device, written and read back. -/
theorem thresholds_reread {device : ManagedDevice} (admitted : device.Admitted) :
    (device.thresholdConfig.map thresholdConfigToJson).map (thresholdConfigFromJson getFloat) =
      device.thresholdConfig := by
  cases known : device.thresholdConfig with
  | none => rfl
  | some config =>
      exact congrArg some (thresholdConfigFromJson_toJson exact (admitted.finite config known))

include exact in
theorem savedDevice_own (slot : Slot) (port : String) {device : ManagedDevice}
    (admitted : device.Admitted) :
    savedDevice getFloat library slot port (deviceItem slot device) = some device.restarted := by
  have named : savedInt (deviceItem slot device) "slot" (-1) = slotNumber slot :=
    getInt_jsonInt (slotNumber slot)
  have address : savedInt (deviceItem slot device) "slave_id" 0 = device.slaveId :=
    getInt_jsonInt device.slaveId
  have interval : savedInt (deviceItem slot device) "poll_interval_ms" 0 = device.pollIntervalMs :=
    getInt_jsonInt device.pollIntervalMs
  have anyPort : savedString library (deviceItem slot device) "port" "" = some "" := by
    rw [savedString, lookup_deviceItem_port]
  have type : parseType (savedString library (deviceItem slot device) "device_type" "unknown") =
      some device.deviceType :=
    parseType_deviceTypeName device.deviceType
  have thresholds := (congrArg (Option.map (thresholdConfigFromJson getFloat))
    (lookup_deviceItem_threshold slot device)).trans (thresholds_reread exact admitted)
  unfold savedDevice
  dsimp only
  rw [named, address, interval, anyPort, type, thresholds, if_neg (not_not.mpr rfl),
    if_neg (fun wrong => wrong.1 rfl), if_neg, Option.map_some]
  · rcases device with ⟨slaveId, poll, kind, config, first, second⟩
    cases kind with
    | sensorTh => rfl
    | relay =>
        have none := admitted.relay rfl
        cases none
        rfl
  · rw [not_or, not_le, not_lt]
    exact ⟨admitted.pollable.address, admitted.pollable.interval⟩

include exact in
/-- The devices of a slot are added one by one, each with an address of its own. -/
theorem loadDevices_own (slot : Slot) (port : String) (devices : List ManagedDevice)
    (loaded : List ManagedDevice) (admitted : forall device, device ∈ devices -> device.Admitted)
    (distinct : (loaded.map ManagedDevice.slaveId ++ devices.map ManagedDevice.slaveId).Nodup) :
    (devices.map (deviceItem slot)).foldl (loadDevice getFloat library slot port) loaded =
      loaded ++ devices.map ManagedDevice.restarted := by
  induction devices generalizing loaded with
  | nil => rw [List.map_nil, List.map_nil, List.foldl_nil, List.append_nil]
  | cons device devices ih =>
      have fresh : hasSlave loaded device.restarted.slaveId = false := by
        rw [hasSlave_eq_false_iff]
        intro known
        exact (List.disjoint_of_nodup_append distinct) known List.mem_cons_self
      have here : loadDevice getFloat library slot port loaded (deviceItem slot device) =
          loaded ++ [device.restarted] := by
        rw [loadDevice, savedDevice_own exact library slot port (admitted device List.mem_cons_self)]
        dsimp only
        rw [fresh, if_neg Bool.false_ne_true]
      rw [List.map_cons, List.foldl_cons, here, ih, List.map_cons, List.append_assoc,
        List.singleton_append]
      · exact fun other inside => admitted other (List.mem_cons_of_mem _ inside)
      · rw [List.map_append, List.append_assoc]
        exact distinct

theorem loadDevices_other {slot own : Slot} (different : slot ≠ own) (port : String)
    (devices : List ManagedDevice) (loaded : List ManagedDevice) :
    (devices.map (deviceItem own)).foldl (loadDevice getFloat library slot port) loaded = loaded := by
  induction devices with
  | nil => rfl
  | cons device devices ih =>
      rw [List.map_cons, List.foldl_cons, loadDevice,
        savedDevice_other library different port device]
      exact ih

include exact in
/-- Only the items of the slot itself make devices of it. -/
theorem loadDevices_configItems {state : PortManager} (admitted : state.Admitted) (slot : Slot)
    (port : String) :
    ([0, 1].flatMap fun own =>
        (state.channels own).devices.map (deviceItem own)).foldl
        (loadDevice getFloat library slot port) [] =
      (state.channels slot).devices.map ManagedDevice.restarted := by
  rw [List.flatMap_cons, List.flatMap_cons, List.flatMap_nil, List.append_nil, List.foldl_append]
  have apart : (0 : Slot) ≠ 1 := by decide
  match slot with
  | 0 =>
      rw [loadDevices_own exact library 0 port _ [] (admitted.devices 0) (admitted.distinct 0),
        loadDevices_other library apart, List.nil_append]
  | 1 =>
      rw [loadDevices_other library apart.symm,
        loadDevices_own exact library 1 port _ [] (admitted.devices 1) (admitted.distinct 1),
        List.nil_append]

end Items

/-! ## The round trip -/

/-- A new process may have opened the slot on any port before it loads the
devices. -/
theorem loadDevicesForSlotLocked_writeConfigLocked {getFloat : Json -> Limit}
    (exact : Exact getFloat) (library : JsonC) {state : PortManager} (admitted : state.Admitted)
    (nowMs : Int64) {fresh : PortManager}
    (file : fresh.file = (state.writeConfigLocked (.written nowMs)).2.file) {slot : Slot}
    (empty : (fresh.channels slot).devices = []) :
    ((loadDevicesForSlotLocked getFloat library fresh slot).channels slot).devices =
      (state.channels slot).devices.map ManagedDevice.restarted := by
  have items : savedItems fresh.file "devices" =
      some ([0, 1].flatMap fun own => (state.channels own).devices.map (deviceItem own)) := by
    rw [file]
    rfl
  rw [loadDevicesForSlotLocked, PortManager.setChannel_self]
  dsimp only
  rw [items, empty, Option.getD_some]
  exact loadDevices_configItems exact library admitted slot _

/-- The `float` of a small whole number. -/
def wholeSingle (value : Int) (small : value.natAbs < 2 ^ 24) : Single :=
  ⟨value, FloatFormat.representable_small value small⟩

/-- The `double` that json-c gives for a number, narrowed to `float`. -/
def exactFloat : Json -> Limit
  | .int value => FloatFormat.round FloatFormat.binary32 value
  | .real value => FloatFormat.round FloatFormat.binary32 value
  | _ => some (wholeSingle 0 (by decide))

theorem exact_exactFloat : Exact exactFloat :=
  fun value => FloatFormat.round_value value

/-- A sensor with one of its four limits and a sensor without thresholds on
the first slot, a relay on the second. -/
def twoSlots : PortManager where
  channels slot := match slot with
    | 0 => ⟨true, "/dev/ttymxc1", 9600, some ⟨"/dev/ttymxc1", 9600⟩,
        [⟨1, 500, .sensorTh,
            some ⟨true, ⟨true, none, some (some (wholeSingle 30 (by decide)))⟩, noThreshold⟩, true, false⟩,
          ⟨2, 1000, .sensorTh, none, false, false⟩]⟩
    | 1 => ⟨true, "/dev/ttymxc2", 19200, some ⟨"/dev/ttymxc2", 19200⟩,
        [⟨1, 700, .relay, none, false, false⟩]⟩
  file := none

theorem twoSlots_admitted : twoSlots.Admitted where
  distinct := by decide
  devices := by
    intro slot device inside
    match slot with
    | 0 =>
        rcases List.mem_pair.mp inside with rfl | rfl
        · refine ⟨⟨by decide, by decide⟩, (fun impossible => nomatch impossible), ?_⟩
          intro config same
          cases same
          exact by decide
        · exact ⟨⟨by decide, by decide⟩, (fun impossible => nomatch impossible),
            (fun _ impossible => nomatch impossible)⟩
    | 1 =>
        rw [List.mem_singleton.mp inside]
        exact ⟨⟨by decide, by decide⟩, fun _ => rfl, fun _ impossible => nomatch impossible⟩

theorem twoSlots_reread :
    ((loadDevicesForSlotLocked exactFloat JsonC.jsonText
        (.constructed (twoSlots.writeConfigLocked (.written 0)).2.file) 0).channels 0).devices =
      (twoSlots.channels 0).devices.map ManagedDevice.restarted := by
  have file : (PortManager.constructed (twoSlots.writeConfigLocked (.written 0)).2.file).file =
      (twoSlots.writeConfigLocked (.written 0)).2.file := rfl
  exact loadDevicesForSlotLocked_writeConfigLocked exact_exactFloat JsonC.jsonText
    twoSlots_admitted 0 file rfl

end Board
end Imx6Gateway
