import Imx6Gateway.Board.CommandHandler
import Imx6Gateway.Library.Transition
import Mathlib.Logic.Function.Basic

namespace Imx6Gateway
namespace Board

open Library

/-!
# The port manager of the board

`port_manager.cpp`: the two serial ports, the devices on them, and the file
that keeps both over a restart.  The file is the tree that reading it gives;
a file that is missing or cannot be parsed gives none.  Every write builds
the whole file from the two channels and takes only the settings of the
offline cache from the file before.

Opening a port, asking a new device for an answer and writing the file are
outcomes of the environment.  The poll threads, the last measured data and
the messages about the ports are left out.
-/

/-- `kSlotCount`. -/
abbrev Slot : Type := Fin 2

def kMinPollIntervalMs : Int := 500

/-- `validSlot`, with the index of the array. -/
def validSlot (slot : Int32) : Option Slot :=
  if slot = 0 then some 0 else if slot = 1 then some 1 else none

def slotNumber (slot : Slot) : Int32 :=
  Int32.ofNat slot

theorem validSlot_eq_some_iff {slot : Int32} {index : Slot} :
    validSlot slot = some index ↔ slot = slotNumber index := by
  unfold validSlot
  split
  · rename_i zero
    subst zero
    revert index
    decide
  · split
    · rename_i one
      subst one
      revert index
      decide
    · rename_i notZero notOne
      constructor
      · intro impossible
        cases impossible
      · intro named
        match index, named with
        | 0, named => exact absurd named notZero
        | 1, named => exact absurd named notOne

/-! ## The channels -/

inductive ManagedType where
  | sensorTh
  | relay
deriving DecidableEq

/-- `parseType`; `none` is `Unknown`. -/
def parseType : Option String -> Option ManagedType
  | some "sensor_th" => some .sensorTh
  | some "relay" => some .relay
  | _ => none

def deviceTypeName : ManagedType -> String
  | .sensorTh => "sensor_th"
  | .relay => "relay"

theorem parseType_deviceTypeName (type : ManagedType) :
    parseType (some (deviceTypeName type)) = some type := by
  cases type <;> rfl

/-- A `SensorDevice`: what its constructor is given, and whether its two points
were in alarm at the last reading. -/
structure ManagedDevice where
  slaveId : Int32
  pollIntervalMs : Int32
  deviceType : ManagedType
  thresholdConfig : Option RequestedThresholds
  lastTemperatureAlarm : Bool
  lastHumidityAlarm : Bool
deriving DecidableEq

/-- Only a temperature sensor keeps thresholds. -/
def createSensorDevice (type : ManagedType) (slaveId pollIntervalMs : Int32)
    (config : Option RequestedThresholds) : ManagedDevice where
  slaveId := slaveId
  pollIntervalMs := pollIntervalMs
  deviceType := type
  thresholdConfig :=
    match type with
    | .sensorTh => config
    | .relay => none
  lastTemperatureAlarm := false
  lastHumidityAlarm := false

def ManagedDevice.setThresholdConfig (device : ManagedDevice) (config : RequestedThresholds) :
    ManagedDevice :=
  match device.deviceType with
  | .sensorTh =>
      { device with
        thresholdConfig := some config
        lastTemperatureAlarm := false
        lastHumidityAlarm := false }
  | .relay => device

/-- The bus object of an open port. -/
structure ModbusMaster where
  portName : String
  baud : Int32
deriving DecidableEq

structure PortChannel where
  connected : Bool
  port : String
  baud : Int32
  bus : Option ModbusMaster
  devices : List ManagedDevice
deriving DecidableEq

/-- A channel as it is constructed, and as `clearSlot` leaves it. -/
def PortChannel.cleared : PortChannel := ⟨false, "", 0, none, []⟩

structure PortManager where
  channels : Slot -> PortChannel
  file : Option Json

namespace PortManager

/-- A new process finds the file of the last one. -/
def constructed (file : Option Json) : PortManager := ⟨fun _ => .cleared, file⟩

def setChannel (state : PortManager) (slot : Slot) (channel : PortChannel) : PortManager :=
  { state with channels := Function.update state.channels slot channel }

@[simp]
theorem setChannel_self (state : PortManager) (slot : Slot) (channel : PortChannel) :
    (state.setChannel slot channel).channels slot = channel :=
  Function.update_self ..

theorem setChannel_other (state : PortManager) {slot other : Slot} (channel : PortChannel)
    (different : other ≠ slot) :
    (state.setChannel slot channel).channels other = state.channels other :=
  Function.update_of_ne different ..

@[simp]
theorem setChannel_file (state : PortManager) (slot : Slot) (channel : PortChannel) :
    (state.setChannel slot channel).file = state.file := rfl

@[simp]
theorem setChannel_setChannel (state : PortManager) (slot : Slot) (first second : PortChannel) :
    (state.setChannel slot first).setChannel slot second = state.setChannel slot second := by
  simp [setChannel]

end PortManager

/-! ## Reading the file -/

/-- An integer member of a saved item; json-c reads a null as zero. -/
def savedInt (item : Json) (key : String) (defaultValue : Int32) : Int32 :=
  ((item.lookup key).map getInt).getD defaultValue

/-- A member of the root that is an array. -/
def savedItems (file : Option Json) (key : String) : Option (List Json) :=
  match file.bind fun root => root.lookup key with
  | some (.arr items) => some items
  | _ => none

section File

variable (getFloat : Json -> Limit) (library : JsonC)

/-- A text member of a saved item; a null stands for no text. -/
def savedString (item : Json) (key defaultValue : String) : Option String :=
  match item.lookup key with
  | some value => library.getString value
  | none => some defaultValue

/-- `thresholdPointFromJson` into a zeroed point. -/
def thresholdPointFromJson (object : Json) : RequestedPoint :=
  parsePointThreshold getFloat object noThreshold

def thresholdConfigFromJson (root : Json) : RequestedThresholds :=
  let thresholds := (root.lookup "thresholds").getD root
  { thresholdEnabled := ((getObjectAny root ["threshold_enabled", "thresholdEnabled"]).map
      JsonC.getBoolean).getD false
    temperature := thresholdPointFromJson getFloat ((thresholds.lookup "temperature").getD .null)
    humidity := thresholdPointFromJson getFloat ((thresholds.lookup "humidity").getD .null) }

/-- The device of a saved item, if the item is of this slot and of this port
and says a device the board can poll. -/
def savedDevice (slot : Slot) (port : String) (item : Json) : Option ManagedDevice :=
  let savedPort := (savedString library item "port" "").getD ""
  let slaveId := savedInt item "slave_id" 0
  let pollIntervalMs := savedInt item "poll_interval_ms" 0
  if savedInt item "slot" (-1) ≠ slotNumber slot then none
  else if savedPort ≠ "" ∧ port ≠ savedPort then none
  else if slaveId.toInt ≤ 0 ∨ pollIntervalMs.toInt < kMinPollIntervalMs then none
  else (parseType (savedString library item "device_type" "unknown")).map fun type =>
    createSensorDevice type slaveId pollIntervalMs
      ((item.lookup "threshold_config").map (thresholdConfigFromJson getFloat))

def hasSlave (devices : List ManagedDevice) (slaveId : Int32) : Bool :=
  devices.any fun device => device.slaveId = slaveId

/-- One turn of the loop of `loadDevicesForSlotLocked`. -/
def loadDevice (slot : Slot) (port : String) (devices : List ManagedDevice) (item : Json) :
    List ManagedDevice :=
  match savedDevice getFloat library slot port item with
  | some device => if hasSlave devices device.slaveId then devices else devices ++ [device]
  | none => devices

def loadDevicesForSlotLocked (state : PortManager) (slot : Slot) : PortManager :=
  let channel := state.channels slot
  state.setChannel slot
    { channel with
      devices := ((savedItems state.file "devices").getD []).foldl
        (loadDevice getFloat library slot channel.port) channel.devices }

structure SavedPortConfig where
  port : String
  baud : Int32
  autoRestore : Bool
deriving DecidableEq

/-- The slot, the port and the rate of a saved item; an item without a slot
or without a port is skipped. -/
def savedPort (item : Json) : Option (Slot × SavedPortConfig) :=
  match validSlot (savedInt item "slot" (-1)), savedString library item "port" "" with
  | some slot, some port =>
      let baud := savedInt item "baud" 9600
      if port = "" then none
      else some (slot, ⟨port, if baud.toInt ≤ 0 then 9600 else baud, true⟩)
  | _, _ => none

/-- One item of `ports[]`: the last one of a slot counts. -/
def loadSavedPort (configs : Slot -> Option SavedPortConfig) (item : Json) :
    Slot -> Option SavedPortConfig :=
  match savedPort library item with
  | some (slot, config) =>
      let autoRestore := ((getObjectAny item ["auto_restore", "autoRestore"]).map
        JsonC.getBoolean).getD true
      Function.update configs slot (some { config with autoRestore := autoRestore })
  | none => configs

/-- One item of `devices[]` of an old file: the first one of a slot counts. -/
def loadSavedPortOfDevice (configs : Slot -> Option SavedPortConfig) (item : Json) :
    Slot -> Option SavedPortConfig :=
  match savedPort library item with
  | some (slot, config) => Function.update configs slot (some ((configs slot).getD config))
  | none => configs

/-- `loadSavedPortConfigs`; the map has an entry for each slot at most. -/
def loadSavedPortConfigs (file : Option Json) : Slot -> Option SavedPortConfig :=
  match savedItems file "ports" with
  | some items => items.foldl (loadSavedPort library) fun _ => none
  | none =>
      ((savedItems file "devices").getD []).foldl (loadSavedPortOfDevice library) fun _ => none

end File

/-! ## Writing the file -/

def thresholdPointToJson (point : RequestedPoint) : Json :=
  .obj [("enable_alarm", .bool point.enableAlarm), ("enableAlarm", .bool point.enableAlarm),
    ("alarm_low", limitJson point.alarmLow), ("alarmLow", limitJson point.alarmLow),
    ("alarm_high", limitJson point.alarmHigh), ("alarmHigh", limitJson point.alarmHigh)]

def thresholdConfigToJson (config : RequestedThresholds) : Json :=
  .obj [("threshold_enabled", .bool config.thresholdEnabled),
    ("thresholdEnabled", .bool config.thresholdEnabled),
    ("thresholds", .obj [("temperature", thresholdPointToJson config.temperature),
      ("humidity", thresholdPointToJson config.humidity)])]

def portItem (slot : Slot) (channel : PortChannel) : List Json :=
  if channel.port ≠ "" ∧ 0 < channel.baud.toInt then
    [.obj [("slot", jsonInt (slotNumber slot)), ("port", .str channel.port),
      ("baud", jsonInt channel.baud), ("auto_restore", .bool true)]]
  else []

def deviceItem (slot : Slot) (device : ManagedDevice) : Json :=
  .obj ([("slot", jsonInt (slotNumber slot)), ("slave_id", jsonInt device.slaveId),
      ("device_type", .str (deviceTypeName device.deviceType)),
      ("poll_interval_ms", jsonInt device.pollIntervalMs)] ++
    (device.thresholdConfig.map thresholdConfigToJson).toList.map ("threshold_config", ·))

/-- A setting of the offline cache, by either of its names. -/
def savedFlag (file : Option Json) (keys : List String) : Bool :=
  ((file.bind fun root => getObjectAny root keys).map JsonC.getBoolean).getD false

/-- How a write ends: at some time, or in a failure that leaves any file. -/
inductive WriteOutcome where
  | written (nowMs : Int64)
  | failed (left : Option Json)

namespace PortManager

variable (state : PortManager)

def configItems (items : Slot -> PortChannel -> List Json) : Json :=
  .arr ([0, 1].flatMap fun slot => items slot (state.channels slot))

/-- The file that `writeConfigLocked` builds. -/
def configRoot (nowMs : Int64) : Json :=
  .obj [("version", .int 1), ("updated_ms", .int nowMs.toInt),
    ("offline_cache_enabled",
      .bool (savedFlag state.file ["offline_cache_enabled", "offlineCacheEnabled"])),
    ("offline_cache_flush_enabled",
      .bool (savedFlag state.file ["offline_cache_flush_enabled", "offlineCacheFlushEnabled"])),
    ("ports", state.configItems portItem),
    ("devices", state.configItems fun slot channel => channel.devices.map (deviceItem slot))]

/-- `writeConfigLocked`, with whether the result is zero. -/
def writeConfigLocked : WriteOutcome -> Bool × PortManager
  | .written nowMs => (true, { state with file := some (state.configRoot nowMs) })
  | .failed left => (false, { state with file := left })

@[simp]
theorem writeConfigLocked_channels (outcome : WriteOutcome) :
    (state.writeConfigLocked outcome).2.channels = state.channels := by
  cases outcome <;> rfl

end PortManager

/-! ## The operations -/

/-- What an operation returns: the reason it leaves with a result of 0, or
with a result of -1. -/
abbrev PortAnswer : Type := Except String String

/-- How opening the port ends, and the write after it. -/
structure ConnectOutcome where
  opened : Bool
  write : WriteOutcome

section Operations

variable (getFloat : Json -> Limit) (library : JsonC)

def isPortUsedByOtherSlot (state : PortManager) (slot : Slot) (port : String) : Bool :=
  [0, 1].any fun other =>
    other ≠ slot && (state.channels other).connected && (state.channels other).port = port

theorem isPortUsedByOtherSlot_eq_false_iff {state : PortManager} {slot : Slot} {port : String} :
    isPortUsedByOtherSlot state slot port = false ↔
      forall other, other ≠ slot -> (state.channels other).connected = true ->
        (state.channels other).port ≠ port := by
  rw [isPortUsedByOtherSlot, List.any_eq_false]
  constructor
  · intro unused other different connected same
    have listed : forall slot : Slot, slot ∈ ([0, 1] : List Slot) := by decide
    exact unused other (listed other) (by simp [different, connected, same])
  · intro unused other _ used
    simp only [ne_eq, decide_not, Bool.and_eq_true, Bool.not_eq_true', decide_eq_false_iff_not,
      decide_eq_true_eq] at used
    exact unused other used.1.1 used.1.2 used.2

/-- The channel on an open port, with its saved devices. -/
def openedPort (state : PortManager) (slot : Slot) (port : String) (baud : Int32) : PortManager :=
  loadDevicesForSlotLocked getFloat library
    (state.setChannel slot
      { PortChannel.cleared with connected := true, port, baud, bus := some ⟨port, baud⟩ })
    slot

/-- A connection whose file could not be written stays open. -/
def connectPort (state : PortManager) (slot : Int32) (port : Option String) (baud : Int32)
    (outcome : ConnectOutcome) : PortAnswer × PortManager :=
  match validSlot slot, port with
  | some index, some name =>
      if name = "" ∨ baud.toInt ≤ 0 then (.error "invalid_request", state)
      else if isPortUsedByOtherSlot state index name then
        (.error "port_already_connected", state)
      else if ¬outcome.opened then
        (.error "open_port_failed", state.setChannel index .cleared)
      else
        match (openedPort getFloat library state index name baud).writeConfigLocked
          outcome.write with
        | (true, written) => (.ok "", written)
        | (false, failed) => (.error "config_write_failed", failed)
  | _, _ => (.error "invalid_request", state)

theorem connectPort_cases (state : PortManager) (slot : Int32) (port : Option String)
    (baud : Int32) (outcome : ConnectOutcome) :
    (connectPort getFloat library state slot port baud outcome).2 = state ∨
      exists index name, validSlot slot = some index ∧ port = some name ∧
        isPortUsedByOtherSlot state index name = false ∧
        ((connectPort getFloat library state slot port baud outcome).2 =
            state.setChannel index .cleared ∨
          (connectPort getFloat library state slot port baud outcome).2 =
            ((openedPort getFloat library state index name baud).writeConfigLocked
              outcome.write).2) := by
  unfold connectPort
  split
  · rename_i index name valid
    split
    · exact Or.inl rfl
    · split
      · exact Or.inl rfl
      · rename_i unused
        refine Or.inr ⟨index, name, valid, rfl, Bool.eq_false_iff.mpr unused, ?_⟩
        split
        · exact Or.inl rfl
        · refine Or.inr ?_
          split <;> rename_i written <;> rw [written]
  · exact Or.inl rfl

/-- The port and the rate stay in the channel, and the file is not written. -/
def disconnectPort (state : PortManager) (slot : Int32) : PortAnswer × PortManager :=
  match validSlot slot with
  | none => (.error "invalid_request", state)
  | some index =>
      let channel := state.channels index
      if ¬channel.connected then (.error "not_connected", state)
      else (.ok "", state.setChannel index
        { channel with bus := none, devices := [], connected := false })

theorem disconnectPort_cases (state : PortManager) (slot : Int32) :
    (disconnectPort state slot).2 = state ∨
      exists index, (disconnectPort state slot).2 = state.setChannel index
        { state.channels index with bus := none, devices := [], connected := false } := by
  unfold disconnectPort
  split
  · exact Or.inl rfl
  · rename_i index _
    dsimp only
    split
    · exact Or.inl rfl
    · exact Or.inr ⟨index, rfl⟩

/-- Keep the changed devices of a channel if the file could be written, else
put others in their place. -/
def commitDevices (state : PortManager) (slot : Slot) (changed restored : List ManagedDevice)
    (success : String) (outcome : WriteOutcome) : PortAnswer × PortManager :=
  let channel := state.channels slot
  match (state.setChannel slot { channel with devices := changed }).writeConfigLocked outcome with
  | (true, written) => (.ok success, written)
  | (false, failed) =>
      (.error "config_write_failed", failed.setChannel slot { channel with devices := restored })

/-- A request for a new device, and whether the device answers. -/
structure AddRequest where
  slaveId : Int32
  deviceType : Option String
  pollIntervalMs : Int32
  thresholdConfig : Option RequestedThresholds
  answers : Bool

/-- The device that an accepted request adds. -/
def AddRequest.device (request : AddRequest) (type : ManagedType) : ManagedDevice :=
  createSensorDevice type request.slaveId request.pollIntervalMs request.thresholdConfig

def addDevice (state : PortManager) (slot : Int32) (request : AddRequest)
    (outcome : WriteOutcome) : PortAnswer × PortManager :=
  match validSlot slot with
  | none => (.error "invalid_request", state)
  | some index =>
      let channel := state.channels index
      if request.slaveId.toInt ≤ 0 then (.error "invalid_request", state)
      else match parseType request.deviceType with
        | none => (.error "unsupported_device_type", state)
        | some type =>
            if request.pollIntervalMs.toInt < kMinPollIntervalMs then
              (.error "invalid_argument", state)
            else if ¬channel.connected ∨ channel.bus = none then (.error "port_not_found", state)
            else if hasSlave channel.devices request.slaveId then
              (.error "slave_address_conflict", state)
            else if ¬request.answers then (.error "device_no_response", state)
            else commitDevices state index (channel.devices ++ [request.device type])
              channel.devices "" outcome

theorem addDevice_cases (state : PortManager) (slot : Int32) (request : AddRequest)
    (outcome : WriteOutcome) :
    (exists reason, addDevice state slot request outcome = (.error reason, state)) ∨
      exists index type, validSlot slot = some index ∧
        parseType request.deviceType = some type ∧ 0 < request.slaveId.toInt ∧
        kMinPollIntervalMs ≤ request.pollIntervalMs.toInt ∧
        (state.channels index).connected = true ∧
        hasSlave (state.channels index).devices request.slaveId = false ∧
        addDevice state slot request outcome =
          commitDevices state index ((state.channels index).devices ++ [request.device type])
            (state.channels index).devices "" outcome := by
  unfold addDevice
  split
  · exact Or.inl ⟨_, rfl⟩
  · rename_i index valid
    dsimp only
    split
    · exact Or.inl ⟨_, rfl⟩
    · rename_i positive
      split
      · exact Or.inl ⟨_, rfl⟩
      · rename_i type parsed
        split
        · exact Or.inl ⟨_, rfl⟩
        · rename_i slow
          split
          · exact Or.inl ⟨_, rfl⟩
          · rename_i ready
            split
            · exact Or.inl ⟨_, rfl⟩
            · rename_i fresh
              split
              · exact Or.inl ⟨_, rfl⟩
              · exact Or.inr ⟨index, type, valid, parsed, not_le.mp positive, not_lt.mp slow,
                  not_not.mp fun closed => ready (Or.inl closed), Bool.eq_false_iff.mpr fresh, rfl⟩

def zeroThresholds : RequestedThresholds := ⟨false, noThreshold, noThreshold⟩

/-- The first device with the address gets the thresholds. -/
def withThreshold (devices : List ManagedDevice) (slaveId : Int32)
    (config : RequestedThresholds) : List ManagedDevice :=
  devices.replaceF fun device =>
    if device.slaveId = slaveId then some (device.setThresholdConfig config) else none

/-- After a failed write the sensor gets the thresholds it had, or zeroed
ones if it had none. -/
def setDeviceThreshold (state : PortManager) (slot slaveId : Int32)
    (config : Option RequestedThresholds) (outcome : WriteOutcome) : PortAnswer × PortManager :=
  match validSlot slot, config with
  | some index, some config =>
      let channel := state.channels index
      if slaveId.toInt ≤ 0 then (.error "invalid_request", state)
      else if ¬channel.connected then (.error "port_not_connected", state)
      else match channel.devices.find? fun device => device.slaveId = slaveId with
        | none => (.error "device_not_found", state)
        | some device =>
            if device.deviceType ≠ .sensorTh then (.error "unsupported_device_type", state)
            else commitDevices state index (withThreshold channel.devices slaveId config)
              (withThreshold channel.devices slaveId
                (device.thresholdConfig.getD zeroThresholds)) "" outcome
  | _, _ => (.error "invalid_request", state)

theorem setDeviceThreshold_cases (state : PortManager) (slot slaveId : Int32)
    (config : Option RequestedThresholds) (outcome : WriteOutcome) :
    (exists reason, setDeviceThreshold state slot slaveId config outcome = (.error reason, state)) ∨
      exists index new old, validSlot slot = some index ∧
        (state.channels index).connected = true ∧
        setDeviceThreshold state slot slaveId config outcome =
          commitDevices state index (withThreshold (state.channels index).devices slaveId new)
            (withThreshold (state.channels index).devices slaveId old) "" outcome := by
  unfold setDeviceThreshold
  split
  · rename_i index config valid
    dsimp only
    split
    · exact Or.inl ⟨_, rfl⟩
    · split
      · exact Or.inl ⟨_, rfl⟩
      · rename_i ready
        split
        · exact Or.inl ⟨_, rfl⟩
        · rename_i device _
          split
          · exact Or.inl ⟨_, rfl⟩
          · exact Or.inr ⟨index, config, device.thresholdConfig.getD zeroThresholds, valid,
              not_not.mp ready, rfl⟩
  · exact Or.inl ⟨_, rfl⟩

def withoutSlave (devices : List ManagedDevice) (slaveId : Int32) : List ManagedDevice :=
  devices.eraseP fun device => device.slaveId = slaveId

/-- After a failed write the device comes back at the end of the list. -/
def removeDevice (state : PortManager) (slot slaveId : Int32) (outcome : WriteOutcome) :
    PortAnswer × PortManager :=
  match validSlot slot with
  | none => (.error "invalid_request", state)
  | some index =>
      let channel := state.channels index
      if slaveId.toInt ≤ 0 then (.error "invalid_request", state)
      else if ¬channel.connected then (.error "port_not_connected", state)
      else match channel.devices.find? fun device => device.slaveId = slaveId with
        | none => (.error "device_not_found", state)
        | some removed =>
            commitDevices state index (withoutSlave channel.devices slaveId)
              (withoutSlave channel.devices slaveId ++ [removed]) "ok" outcome

theorem removeDevice_cases (state : PortManager) (slot slaveId : Int32) (outcome : WriteOutcome) :
    (exists reason, removeDevice state slot slaveId outcome = (.error reason, state)) ∨
      exists index removed, validSlot slot = some index ∧
        (state.channels index).connected = true ∧
        ((state.channels index).devices.find? fun device => device.slaveId = slaveId) =
          some removed ∧
        removeDevice state slot slaveId outcome =
          commitDevices state index (withoutSlave (state.channels index).devices slaveId)
            (withoutSlave (state.channels index).devices slaveId ++ [removed]) "ok" outcome := by
  unfold removeDevice
  split
  · exact Or.inl ⟨_, rfl⟩
  · rename_i index valid
    dsimp only
    split
    · exact Or.inl ⟨_, rfl⟩
    · split
      · exact Or.inl ⟨_, rfl⟩
      · rename_i ready
        split
        · exact Or.inl ⟨_, rfl⟩
        · rename_i removed found
          exact Or.inr ⟨index, removed, valid, not_not.mp ready, found, rfl⟩

/-- `RelayDevice::writeStates`: the four coils the bus is told to set. -/
def relayCoils (states : BitVec 16) (coil : Fin 4) : Bool :=
  states.getLsbD coil

/-- `handleRelay`, with the coils of the relay after a write that went through. -/
def handleRelay (state : PortManager) (slot slaveId : Int32) (states : BitVec 16)
    (written : Bool) : Except String (Fin 4 -> Bool) :=
  match validSlot slot with
  | none => .error "invalid_request"
  | some index =>
      let channel := state.channels index
      if slaveId.toInt ≤ 0 then .error "invalid_request"
      else if ¬channel.connected ∨ channel.bus = none then .error "port_not_connected"
      else if channel.devices.any fun device =>
          device.slaveId = slaveId && device.deviceType = .relay then
        if written then .ok (relayCoils states) else .error "modbus_write_failed"
      else .error "relay_not_connected"

theorem handleRelay_done {state : PortManager} {slot slaveId : Int32} {states : BitVec 16}
    {written : Bool} {coils : Fin 4 -> Bool}
    (done : (handleRelay state slot slaveId states written).toOption = some coils) :
    coils = relayCoils states := by
  unfold handleRelay at done
  dsimp only at done
  split at done
  · cases done
  · split at done
    · cases done
    · split at done
      · cases done
      · split at done
        · split at done
          · cases done
            rfl
          · cases done
        · cases done

/-- One saved connection: it is tried if the file wants it and its port is
there. -/
def restoreSlot (configs : Slot -> Option SavedPortConfig) (availablePorts : List String)
    (outcomes : Slot -> ConnectOutcome) (state : PortManager) (slot : Slot) : PortManager :=
  match configs slot with
  | some config =>
      if config.autoRestore && availablePorts.contains config.port then
        (connectPort getFloat library state (slotNumber slot) (some config.port) config.baud
          (outcomes slot)).2
      else state
  | none => state

/-- The file is read once, before the first connection writes it again. -/
def restoreSavedConnections (state : PortManager) (availablePorts : List String)
    (outcomes : Slot -> ConnectOutcome) : PortManager :=
  [0, 1].foldl
    (restoreSlot getFloat library (loadSavedPortConfigs library state.file) availablePorts outcomes)
    state

/-- What happens to a port manager.  Another program may replace the file, and
a new process begins with no connections. -/
inductive PortEvent where
  | connectPort (slot : Int32) (port : Option String) (baud : Int32) (outcome : ConnectOutcome)
  | disconnectPort (slot : Int32)
  | addDevice (slot : Int32) (request : AddRequest) (outcome : WriteOutcome)
  | setDeviceThreshold (slot slaveId : Int32) (config : Option RequestedThresholds)
      (outcome : WriteOutcome)
  | removeDevice (slot slaveId : Int32) (outcome : WriteOutcome)
  | restoreSavedConnections (availablePorts : List String) (outcomes : Slot -> ConnectOutcome)
  | fileReplaced (content : Option Json)
  | restarted

def PortManager.step (state : PortManager) : PortEvent -> PortManager
  | .connectPort slot port baud outcome =>
      (Board.connectPort getFloat library state slot port baud outcome).2
  | .disconnectPort slot => (Board.disconnectPort state slot).2
  | .addDevice slot request outcome => (Board.addDevice state slot request outcome).2
  | .setDeviceThreshold slot slaveId config outcome =>
      (Board.setDeviceThreshold state slot slaveId config outcome).2
  | .removeDevice slot slaveId outcome => (Board.removeDevice state slot slaveId outcome).2
  | .restoreSavedConnections availablePorts outcomes =>
      Board.restoreSavedConnections getFloat library state availablePorts outcomes
  | .fileReplaced content => { state with file := content }
  | .restarted => .constructed state.file

def portSystem (file : Option Json) : TransitionSystem PortManager PortEvent where
  initial := .constructed file
  step := PortManager.step getFloat library

end Operations

end Board
end Imx6Gateway
