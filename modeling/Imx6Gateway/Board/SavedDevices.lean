import Imx6Gateway.Board.PortInvariant
import Imx6Gateway.Library.WriteBack

namespace Imx6Gateway
namespace Board

open Library

/-!
# What the config file keeps of the devices

Every write takes the devices from the two channels, not from the file.  A
device of the file that no channel has is lost with the next write, whatever
operation causes it: the devices of a channel that is not connected, and
those that the loader does not take.
-/

theorem slots_neZero : NeZero 2 := ⟨by decide⟩
theorem slotKeys_lawful : LawfulBEq (Slot × Int32) := inferInstance

attribute [local instance] slots_neZero slotKeys_lawful

/-- The slot and the address of a saved item, if it names a slot. -/
def savedKey (item : Json) : Option (Slot × Int32) :=
  (validSlot (savedInt item "slot" (-1))).map fun slot => (slot, savedInt item "slave_id" 0)

def savedKeys (file : Option Json) : List (Slot × Int32) :=
  ((savedItems file "devices").getD []).filterMap savedKey

theorem mem_savedKeys_iff {file : Option Json} {key : Slot × Int32} :
    key ∈ savedKeys file ↔
      exists item, item ∈ (savedItems file "devices").getD [] ∧
        savedInt item "slot" (-1) = slotNumber key.1 ∧ savedInt item "slave_id" 0 = key.2 := by
  rw [savedKeys, List.mem_filterMap]
  refine exists_congr fun item => and_congr_right fun _ => ?_
  rw [savedKey, Option.map_eq_some_iff]
  constructor
  · rintro ⟨slot, valid, rfl⟩
    exact ⟨validSlot_eq_some_iff.mp valid, rfl⟩
  · rintro ⟨slot, address⟩
    exact ⟨key.1, validSlot_eq_some_iff.mpr slot, Prod.ext rfl address⟩

/-! ## Writing and reading back -/

theorem getInt_jsonInt (value : Int32) : getInt (jsonInt value) = value := by
  have low := value.le_toInt
  have high := value.toInt_lt
  rw [getInt, jsonInt, JsonC.getInt64, JsonC.clampInt64, JsonC.int64Min, JsonC.int64Max]
  rw [show max (-2 ^ 63) (min (2 ^ 63 - 1) value.toInt) = value.toInt by omega,
    show max (-2 ^ 31) (min (2 ^ 31 - 1) value.toInt) = value.toInt by omega, Int32.ofInt_toInt]

theorem savedKey_deviceItem (slot : Slot) (device : ManagedDevice) :
    savedKey (deviceItem slot device) = some (slot, device.slaveId) := by
  have named : savedInt (deviceItem slot device) "slot" (-1) = slotNumber slot :=
    getInt_jsonInt (slotNumber slot)
  have addressed : savedInt (deviceItem slot device) "slave_id" 0 = device.slaveId :=
    getInt_jsonInt device.slaveId
  rw [savedKey, named, validSlot_eq_some_iff.mpr rfl, Option.map_some, addressed]

namespace PortManager

/-- Whether a channel has the device. -/
def live (state : PortManager) (key : Slot × Int32) : Bool :=
  hasSlave (state.channels key.1).devices key.2

theorem live_iff {state : PortManager} {key : Slot × Int32} :
    state.live key = true ↔
      exists device, device ∈ (state.channels key.1).devices ∧ device.slaveId = key.2 := by
  simp [live, hasSlave]

theorem mem_savedKeys_configRoot {state : PortManager} {nowMs : Int64} {key : Slot × Int32} :
    key ∈ savedKeys (some (state.configRoot nowMs)) ↔ state.live key = true := by
  have items : savedItems (some (state.configRoot nowMs)) "devices" =
      some ([0, 1].flatMap fun slot =>
        (state.channels slot).devices.map (deviceItem slot)) := rfl
  have listed : forall slot : Slot, slot ∈ ([0, 1] : List Slot) := by decide
  rw [savedKeys, items, Option.getD_some, List.mem_filterMap, live_iff]
  constructor
  · rintro ⟨item, inside, read⟩
    rcases List.mem_flatMap.mp inside with ⟨slot, -, mapped⟩
    rcases List.mem_map.mp mapped with ⟨device, member, rfl⟩
    rw [savedKey_deviceItem] at read
    cases read
    exact ⟨device, member, rfl⟩
  · rintro ⟨device, member, address⟩
    refine ⟨deviceItem key.1 device, ?_, ?_⟩
    · exact List.mem_flatMap.mpr ⟨key.1, listed key.1, List.mem_map_of_mem member⟩
    · rw [savedKey_deviceItem, address]

end PortManager

section Loading

variable (getFloat : Json -> Limit) (library : JsonC)

/-- Whether an item of the file makes a device with the address, when the
slot is opened on the port. -/
def loadable (file : Option Json) (slot : Slot) (port : String) (slaveId : Int32) : Bool :=
  ((savedItems file "devices").getD []).any fun item =>
    (savedDevice getFloat library slot port item).any fun device => device.slaveId = slaveId

theorem savedDevice_key {slot : Slot} {port : String} {item : Json} {device : ManagedDevice}
    (read : savedDevice getFloat library slot port item = some device) :
    savedInt item "slot" (-1) = slotNumber slot ∧ savedInt item "slave_id" 0 = device.slaveId := by
  unfold savedDevice at read
  dsimp only at read
  split at read
  · cases read
  · rename_i named
    split at read
    · cases read
    · split at read
      · cases read
      · rcases Option.map_eq_some_iff.mp read with ⟨type, -, rfl⟩
        exact ⟨not_not.mp named, rfl⟩

theorem mem_savedKeys_of_loadable {file : Option Json} {slot : Slot} {port : String}
    {slaveId : Int32} (found : loadable getFloat library file slot port slaveId = true) :
    (slot, slaveId) ∈ savedKeys file := by
  rcases List.any_eq_true.mp found with ⟨item, inside, read⟩
  cases same : savedDevice getFloat library slot port item with
  | none =>
      rw [same] at read
      cases read
  | some device =>
      rw [same] at read
      have key := savedDevice_key getFloat library same
      exact mem_savedKeys_iff.mpr ⟨item, inside, key.1, key.2.trans (of_decide_eq_true read)⟩

theorem hasSlave_loadDevice (slot : Slot) (port : String) (devices : List ManagedDevice)
    (item : Json) (slaveId : Int32) :
    hasSlave (loadDevice getFloat library slot port devices item) slaveId =
      (hasSlave devices slaveId ||
        (savedDevice getFloat library slot port item).any fun device =>
          device.slaveId = slaveId) := by
  unfold loadDevice
  cases savedDevice getFloat library slot port item with
  | none => simp
  | some device =>
      dsimp only
      split
      · rename_i known
        by_cases same : device.slaveId = slaveId
        · rw [← same, known, Bool.true_or]
        · simp [same]
      · simp [hasSlave]

/-- A device is loaded whichever of the items says it. -/
theorem hasSlave_loadDevices (slot : Slot) (port : String) (items : List Json)
    (devices : List ManagedDevice) (slaveId : Int32) :
    hasSlave (items.foldl (loadDevice getFloat library slot port) devices) slaveId =
      (hasSlave devices slaveId || items.any fun item =>
        (savedDevice getFloat library slot port item).any fun device =>
          device.slaveId = slaveId) := by
  induction items generalizing devices with
  | nil => simp
  | cons item items ih =>
      rw [List.foldl_cons, ih, hasSlave_loadDevice, List.any_cons, Bool.or_assoc]

theorem live_openedPort (state : PortManager) (slot : Slot) (port : String) (baud : Int32)
    (key : Slot × Int32) :
    (openedPort getFloat library state slot port baud).live key =
      if key.1 = slot then loadable getFloat library state.file slot port key.2
      else state.live key := by
  rw [openedPort, loadDevicesForSlotLocked, PortManager.setChannel_setChannel,
    PortManager.setChannel_self, PortManager.live]
  split
  · rename_i same
    rw [same, PortManager.setChannel_self]
    exact hasSlave_loadDevices getFloat library slot port _ [] key.2
  · rename_i different
    rw [PortManager.setChannel_other _ _ different]
    rfl

end Loading

/-! ## What a request comes to

A request that passes every check gets to the write of the file. -/

section Targets

variable (state : PortManager)

/-- The slot and the port that a request opens. -/
def connectTarget (slot : Int32) (port : Option String) (baud : Int32) (opened : Bool) :
    Option (Slot × String) :=
  match validSlot slot, port with
  | some index, some name =>
      if name ≠ "" ∧ 0 < baud.toInt ∧ isPortUsedByOtherSlot state index name = false ∧
          opened = true then
        some (index, name)
      else none
  | _, _ => none

/-- The device that a request adds. -/
def addTarget (slot : Int32) (request : AddRequest) : Option (Slot × Int32) :=
  (validSlot slot).bind fun index =>
    let channel := state.channels index
    if 0 < request.slaveId.toInt ∧ (parseType request.deviceType).isSome = true ∧
        kMinPollIntervalMs ≤ request.pollIntervalMs.toInt ∧ channel.connected = true ∧
        channel.bus ≠ none ∧ hasSlave channel.devices request.slaveId = false ∧
        request.answers = true then
      some (index, request.slaveId)
    else none

/-- The sensor that gets other thresholds. -/
def thresholdTarget (slot slaveId : Int32) (config : Option RequestedThresholds) :
    Option (Slot × Int32) :=
  match validSlot slot, config with
  | some index, some _ =>
      let channel := state.channels index
      let found := channel.devices.find? fun device => device.slaveId = slaveId
      if 0 < slaveId.toInt ∧ channel.connected = true ∧
          found.map ManagedDevice.deviceType = some .sensorTh then
        some (index, slaveId)
      else none
  | _, _ => none

/-- The device that a request removes. -/
def removeTarget (slot slaveId : Int32) : Option (Slot × Int32) :=
  (validSlot slot).bind fun index =>
    let channel := state.channels index
    if 0 < slaveId.toInt ∧ channel.connected = true ∧
        hasSlave channel.devices slaveId = true then
      some (index, slaveId)
    else none

end Targets

section Connecting

variable (getFloat : Json -> Limit) (library : JsonC) {state : PortManager} {slot : Int32}
  {port : Option String} {baud : Int32}

theorem connectPort_target {index : Slot} {name : String} {outcome : ConnectOutcome}
    (found : connectTarget state slot port baud outcome.opened = some (index, name)) :
    (connectPort getFloat library state slot port baud outcome).2 =
      ((openedPort getFloat library state index name baud).writeConfigLocked outcome.write).2 := by
  unfold connectTarget at found
  unfold connectPort
  cases valid : validSlot slot with
  | none =>
      rw [valid] at found
      cases found
  | some own =>
      rw [valid] at found
      cases port with
      | none => cases found
      | some given =>
          dsimp only at found ⊢
          split_ifs at found with checked
          cases found
          rcases checked with ⟨named, rate, unused, opened⟩
          rw [if_neg (not_or.mpr ⟨named, not_le.mpr rate⟩), unused, if_neg Bool.false_ne_true,
            if_neg (not_not.mpr opened)]
          split <;> rename_i written <;> rw [written]

theorem connectPort_without_target {outcome : ConnectOutcome}
    (missing : connectTarget state slot port baud outcome.opened = none) :
    (connectPort getFloat library state slot port baud outcome).2 = state ∨
      exists index, (connectPort getFloat library state slot port baud outcome).2 =
        state.setChannel index .cleared := by
  unfold connectTarget at missing
  unfold connectPort
  cases valid : validSlot slot with
  | none => exact Or.inl rfl
  | some own =>
      rw [valid] at missing
      cases port with
      | none => exact Or.inl rfl
      | some given =>
          dsimp only at missing ⊢
          split
          · exact Or.inl rfl
          · rename_i wellFormed
            split
            · exact Or.inl rfl
            · rename_i unused
              split
              · exact Or.inr ⟨own, rfl⟩
              · rename_i opened
                rw [not_or] at wellFormed
                rw [if_pos ⟨wellFormed.1, not_le.mp wellFormed.2, Bool.eq_false_iff.mpr unused,
                  not_not.mp opened⟩] at missing
                cases missing

end Connecting

section Committing

variable {state : PortManager} {slot : Int32} {key : Slot × Int32}

theorem addDevice_target {request : AddRequest}
    (found : addTarget state slot request = some key) (outcome : WriteOutcome) :
    validSlot slot = some key.1 ∧ request.slaveId = key.2 ∧
      exists type, addDevice state slot request outcome =
        commitDevices state key.1 ((state.channels key.1).devices ++ [request.device type])
          (state.channels key.1).devices "" outcome := by
  rcases Option.bind_eq_some_iff.mp found with ⟨index, valid, checked⟩
  dsimp only at checked
  split_ifs at checked with checks
  cases checked
  rcases checks with ⟨address, known, interval, connected, bus, fresh, answers⟩
  rcases Option.isSome_iff_exists.mp known with ⟨type, parsed⟩
  refine ⟨valid, rfl, type, ?_⟩
  unfold addDevice
  rw [valid, parsed]
  dsimp only
  rw [if_neg (not_le.mpr address), if_neg (not_lt.mpr interval),
    if_neg (not_or.mpr ⟨not_not.mpr connected, bus⟩), fresh, if_neg Bool.false_ne_true,
    if_neg (not_not.mpr answers)]

theorem addDevice_without_target {request : AddRequest}
    (missing : addTarget state slot request = none) (outcome : WriteOutcome) :
    exists reason, addDevice state slot request outcome = (.error reason, state) := by
  unfold addTarget at missing
  unfold addDevice
  cases valid : validSlot slot with
  | none => exact ⟨_, rfl⟩
  | some index =>
      rw [valid, Option.bind_some] at missing
      dsimp only at missing ⊢
      split_ifs at missing with checks
      split
      · exact ⟨_, rfl⟩
      · rename_i address
        cases parsed : parseType request.deviceType with
        | none => exact ⟨_, rfl⟩
        | some type =>
            dsimp only
            split
            · exact ⟨_, rfl⟩
            · rename_i interval
              split
              · exact ⟨_, rfl⟩
              · rename_i ready
                split
                · exact ⟨_, rfl⟩
                · rename_i fresh
                  split
                  · exact ⟨_, rfl⟩
                  · rename_i answers
                    rw [not_or, not_not] at ready
                    exact absurd ⟨not_le.mp address, by rw [parsed]; rfl, not_lt.mp interval,
                      ready.1, ready.2, Bool.eq_false_iff.mpr fresh, not_not.mp answers⟩ checks

theorem setDeviceThreshold_target {slaveId : Int32} {config : Option RequestedThresholds}
    (found : thresholdTarget state slot slaveId config = some key) (outcome : WriteOutcome) :
    state.live key = true ∧ exists device new,
      ((state.channels key.1).devices.find? fun device => device.slaveId = slaveId) = some device ∧
      device.deviceType = .sensorTh ∧
      setDeviceThreshold state slot slaveId config outcome =
        commitDevices state key.1 (withThreshold (state.channels key.1).devices slaveId new)
          (withThreshold (state.channels key.1).devices slaveId
            (device.thresholdConfig.getD zeroThresholds)) "" outcome := by
  unfold thresholdTarget at found
  unfold setDeviceThreshold
  cases valid : validSlot slot with
  | none =>
      rw [valid] at found
      cases found
  | some index =>
      rw [valid] at found
      cases config with
      | none => cases found
      | some config =>
          dsimp only at found ⊢
          split_ifs at found with checks
          cases found
          rcases checks with ⟨address, connected, sensor⟩
          rcases Option.map_eq_some_iff.mp sensor with ⟨device, listed, type⟩
          rw [if_neg (not_le.mpr address), if_neg (not_not.mpr connected), listed]
          dsimp only
          rw [if_neg (not_not.mpr type)]
          refine ⟨?_, device, config, rfl, type, rfl⟩
          exact List.any_eq_true.mpr
            ⟨device, List.mem_of_find?_eq_some listed, (List.find?_some listed :)⟩

theorem setDeviceThreshold_without_target {slaveId : Int32}
    {config : Option RequestedThresholds}
    (missing : thresholdTarget state slot slaveId config = none) (outcome : WriteOutcome) :
    exists reason, setDeviceThreshold state slot slaveId config outcome =
      (.error reason, state) := by
  unfold thresholdTarget at missing
  unfold setDeviceThreshold
  cases valid : validSlot slot with
  | none => exact ⟨_, rfl⟩
  | some index =>
      rw [valid] at missing
      cases config with
      | none => exact ⟨_, rfl⟩
      | some config =>
          dsimp only at missing ⊢
          split_ifs at missing with checks
          split
          · exact ⟨_, rfl⟩
          · rename_i address
            split
            · exact ⟨_, rfl⟩
            · rename_i ready
              split
              · exact ⟨_, rfl⟩
              · rename_i device listed
                split
                · exact ⟨_, rfl⟩
                · rename_i type
                  exact absurd ⟨not_le.mp address, not_not.mp ready, by
                    rw [listed, Option.map_some, not_not.mp type]⟩ checks

theorem removeDevice_target {slaveId : Int32}
    (found : removeTarget state slot slaveId = some key) (outcome : WriteOutcome) :
    validSlot slot = some key.1 ∧ slaveId = key.2 ∧
      exists removed,
        ((state.channels key.1).devices.find? fun device => device.slaveId = slaveId) =
          some removed ∧
        removeDevice state slot slaveId outcome =
          commitDevices state key.1 (withoutSlave (state.channels key.1).devices slaveId)
            (withoutSlave (state.channels key.1).devices slaveId ++ [removed]) "ok" outcome := by
  rcases Option.bind_eq_some_iff.mp found with ⟨index, valid, checked⟩
  dsimp only at checked
  split_ifs at checked with checks
  cases checked
  rcases checks with ⟨address, connected, known⟩
  have listed : ((state.channels index).devices.find? fun device =>
      device.slaveId = slaveId).isSome = true :=
    List.find?_isSome.mpr (List.any_eq_true.mp known)
  rcases Option.isSome_iff_exists.mp listed with ⟨removed, listed⟩
  refine ⟨valid, rfl, removed, listed, ?_⟩
  unfold removeDevice
  rw [valid]
  dsimp only
  rw [if_neg (not_le.mpr address), if_neg (not_not.mpr connected), listed]

theorem removeDevice_without_target {slaveId : Int32}
    (missing : removeTarget state slot slaveId = none) (outcome : WriteOutcome) :
    exists reason, removeDevice state slot slaveId outcome = (.error reason, state) := by
  unfold removeTarget at missing
  unfold removeDevice
  cases valid : validSlot slot with
  | none => exact ⟨_, rfl⟩
  | some index =>
      rw [valid, Option.bind_some] at missing
      dsimp only at missing ⊢
      split_ifs at missing with checks
      split
      · exact ⟨_, rfl⟩
      · rename_i address
        split
        · exact ⟨_, rfl⟩
        · rename_i ready
          split
          · exact ⟨_, rfl⟩
          · rename_i removed listed
            have known : hasSlave (state.channels index).devices slaveId = true :=
              List.any_eq_true.mpr ⟨removed, List.mem_of_find?_eq_some listed,
                (List.find?_some listed :)⟩
            exact absurd ⟨not_le.mp address, not_not.mp ready, known⟩ checks

end Committing

/-! ## The devices that were put in -/

/-- A port manager, and the devices that its file had at the start or that
were added, until they were removed. -/
structure DeviceWorld where
  manager : PortManager
  held : List (Slot × Int32)

/-- Every device that was put in is in the file. -/
def DeviceWorld.Kept (world : DeviceWorld) : Prop :=
  forall key, key ∈ world.held -> key ∈ savedKeys world.manager.file

-- The members are named, because there are also finitely many addresses.
instance (world : DeviceWorld) : Decidable world.Kept :=
  List.decidableBAll (fun key => key ∈ savedKeys world.manager.file) world.held

/-- The file works: every write of it goes through, and nobody else replaces it. -/
def PortEvent.FileWorks : PortEvent -> Prop
  | .connectPort _ _ _ outcome => exists nowMs, outcome.write = .written nowMs
  | .addDevice _ _ outcome | .setDeviceThreshold _ _ _ outcome | .removeDevice _ _ outcome =>
      exists nowMs, outcome = .written nowMs
  | .restoreSavedConnections _ outcomes => forall slot, exists nowMs,
      (outcomes slot).write = .written nowMs
  | .fileReplaced _ => False
  | .disconnectPort _ | .restarted => True

section World

variable (getFloat : Json -> Limit) (library : JsonC)

/-- The devices that were put in, after one more event. -/
def DeviceWorld.heldAfter (world : DeviceWorld) : PortEvent -> List (Slot × Int32)
  | .addDevice slot request outcome =>
      match validSlot slot, (addDevice world.manager slot request outcome).1 with
      | some index, .ok _ => (index, request.slaveId) :: world.held
      | _, _ => world.held
  | .removeDevice slot slaveId outcome =>
      match validSlot slot, (removeDevice world.manager slot slaveId outcome).1 with
      | some index, .ok _ => world.held.filter fun key => key ≠ (index, slaveId)
      | _, _ => world.held
  | _ => world.held

def DeviceWorld.step (world : DeviceWorld) (event : PortEvent) : DeviceWorld where
  manager := world.manager.step getFloat library event
  held := world.heldAfter event

def deviceSystem (file : Option Json) : TransitionSystem DeviceWorld PortEvent where
  initial := ⟨.constructed file, savedKeys file⟩
  step := DeviceWorld.step getFloat library

/-! ## The condition -/

/-- A connection finds every device of the file: those of its own slot can be
loaded, and the other channel has its own. -/
def ConnectKeeps (state : PortManager) (target : Option (Slot × String)) : Prop :=
  forall connection, connection ∈ target -> forall key, key ∈ savedKeys state.file ->
    (if key.1 = connection.1 then
      loadable getFloat library state.file connection.1 connection.2 key.2
    else state.live key) = true

/-- A request about a device finds every other device of the file in memory. -/
def RequestKeeps (state : PortManager) (target : Option (Slot × Int32)) : Prop :=
  forall key, key ∈ target -> forall other, other ∈ savedKeys state.file ->
    other = key ∨ state.live other = true

/-- The connection that a restart makes again for a slot. -/
def restoreTarget (configs : Slot -> Option SavedPortConfig) (availablePorts : List String)
    (outcomes : Slot -> ConnectOutcome) (state : PortManager) (slot : Slot) :
    Option (Slot × String) :=
  (configs slot).bind fun config =>
    if config.autoRestore && availablePorts.contains config.port then
      connectTarget state (slotNumber slot) (some config.port) config.baud (outcomes slot).opened
    else none

/-- The second connection is made in the state that the first one leaves. -/
def RestoreKeeps (state : PortManager) (availablePorts : List String)
    (outcomes : Slot -> ConnectOutcome) : Prop :=
  let configs := loadSavedPortConfigs library state.file
  let next := restoreSlot getFloat library configs availablePorts outcomes state 0
  ConnectKeeps getFloat library state (restoreTarget configs availablePorts outcomes state 0) ∧
    ConnectKeeps getFloat library next (restoreTarget configs availablePorts outcomes next 1)

def KeepsDevices (world : DeviceWorld) : PortEvent -> Prop
  | .connectPort slot port baud outcome =>
      ConnectKeeps getFloat library world.manager
        (connectTarget world.manager slot port baud outcome.opened)
  | .addDevice slot request _ => RequestKeeps world.manager (addTarget world.manager slot request)
  | .setDeviceThreshold slot slaveId config _ =>
      RequestKeeps world.manager (thresholdTarget world.manager slot slaveId config)
  | .removeDevice slot slaveId _ =>
      RequestKeeps world.manager (removeTarget world.manager slot slaveId)
  | .restoreSavedConnections availablePorts outcomes =>
      RestoreKeeps getFloat library world.manager availablePorts outcomes
  | .disconnectPort _ | .fileReplaced _ | .restarted => True

instance connectKeepsDecidable (state : PortManager) :
    forall target, Decidable (ConnectKeeps getFloat library state target)
  | none => isTrue fun _ found => nomatch found
  | some connection =>
      haveI := List.decidableBAll (fun key => (if key.1 = connection.1 then
        loadable getFloat library state.file connection.1 connection.2 key.2
        else state.live key) = true) (savedKeys state.file)
      decidable_of_iff
        (forall key, key ∈ savedKeys state.file ->
          (if key.1 = connection.1 then
            loadable getFloat library state.file connection.1 connection.2 key.2
          else state.live key) = true)
        ⟨fun keeps _ found => Option.some.inj found ▸ keeps, fun keeps => keeps connection rfl⟩

instance requestKeepsDecidable (state : PortManager) :
    forall target, Decidable (RequestKeeps state target)
  | none => isTrue fun _ found => nomatch found
  | some key =>
      haveI := List.decidableBAll (fun other => other = key ∨ state.live other = true)
        (savedKeys state.file)
      decidable_of_iff
        (forall other, other ∈ savedKeys state.file -> other = key ∨ state.live other = true)
        ⟨fun keeps _ found => Option.some.inj found ▸ keeps, fun keeps => keeps key rfl⟩

instance keepsDevicesDecidable (world : DeviceWorld) :
    forall event, Decidable (KeepsDevices getFloat library world event)
  | .connectPort _ _ _ _ => connectKeepsDecidable getFloat library world.manager _
  | .addDevice _ _ _ => requestKeepsDecidable world.manager _
  | .setDeviceThreshold _ _ _ _ => requestKeepsDecidable world.manager _
  | .removeDevice _ _ _ => requestKeepsDecidable world.manager _
  | .restoreSavedConnections _ _ =>
      haveI := connectKeepsDecidable getFloat library
      inferInstanceAs (Decidable (_ ∧ _))
  | .disconnectPort _ | .fileReplaced _ | .restarted => isTrue trivial

end World

/-! ## What one event requires -/

/-- The port manager as a memory and a file that is written back. -/
def holdings (state : PortManager) (held : List (Slot × Int32)) : Holdings (Slot × Int32) where
  saved := {key | key ∈ savedKeys state.file}
  live := {key | state.live key = true}
  held := {key | key ∈ held}

theorem holdings_written (state : PortManager) (nowMs : Int64) (held : List (Slot × Int32)) :
    (holdings (state.writeConfigLocked (.written nowMs)).2 held).saved =
      (holdings (state.writeConfigLocked (.written nowMs)).2 held).live := by
  ext key
  exact PortManager.mem_savedKeys_configRoot

theorem live_setChannel_of_nil {state : PortManager} {slot : Slot} {channel : PortChannel}
    (empty : channel.devices = []) {key : Slot × Int32}
    (live : (state.setChannel slot channel).live key = true) : state.live key = true := by
  by_cases same : key.1 = slot
  · rw [PortManager.live, same, PortManager.setChannel_self, empty] at live
    cases live
  · rw [PortManager.live, PortManager.setChannel_other _ _ same] at live
    exact live

theorem quiet_holdings {state next : PortManager} (held : List (Slot × Int32))
    (file : next.file = state.file)
    (forgets : forall key, next.live key = true -> state.live key = true) :
    (holdings state held).Quiet (holdings next held) where
  saved := by rw [holdings, file]; rfl
  held := rfl
  live := forgets

section Steps

variable (getFloat : Json -> Limit) (library : JsonC)

/-- What a request for a connection does. -/
inductive Connects (state : PortManager) : Option (Slot × String) -> PortManager -> Prop where
  | unopened {next : PortManager} (file : next.file = state.file)
      (forgets : forall key, next.live key = true -> state.live key = true) :
      Connects state none next
  | opened (slot : Slot) (name : String) (baud : Int32) (nowMs : Int64) :
      Connects state (some (slot, name))
        ((openedPort getFloat library state slot name baud).writeConfigLocked (.written nowMs)).2

theorem connects_connectPort (state : PortManager) (slot : Int32) (port : Option String)
    (baud : Int32) {outcome : ConnectOutcome}
    (works : exists nowMs, outcome.write = .written nowMs) :
    Connects getFloat library state (connectTarget state slot port baud outcome.opened)
      (connectPort getFloat library state slot port baud outcome).2 := by
  rcases works with ⟨nowMs, written⟩
  cases found : connectTarget state slot port baud outcome.opened with
  | none =>
      rcases connectPort_without_target getFloat library found with same | ⟨index, cleared⟩
      · rw [same]
        exact .unopened rfl fun _ live => live
      · rw [cleared]
        exact .unopened rfl fun _ live => live_setChannel_of_nil rfl live
  | some connection =>
      rw [connectPort_target getFloat library found, written]
      exact .opened connection.1 connection.2 baud nowMs

theorem connects_restoreSlot (configs : Slot -> Option SavedPortConfig)
    (availablePorts : List String) {outcomes : Slot -> ConnectOutcome} (state : PortManager)
    (slot : Slot) (works : exists nowMs, (outcomes slot).write = .written nowMs) :
    Connects getFloat library state (restoreTarget configs availablePorts outcomes state slot)
      (restoreSlot getFloat library configs availablePorts outcomes state slot) := by
  unfold restoreTarget restoreSlot
  cases configs slot with
  | none => exact .unopened rfl fun _ live => live
  | some config =>
      rw [Option.bind_some]
      dsimp only
      split
      · exact connects_connectPort getFloat library state _ _ _ works
      · exact .unopened rfl fun _ live => live

variable {getFloat library} {state next : PortManager} {target : Option (Slot × String)}
  {held : List (Slot × Int32)}

theorem loaded_openedPort (slot : Slot) (name : String) (baud : Int32) (nowMs : Int64) :
    (holdings state held).Loaded (holdings
      ((openedPort getFloat library state slot name baud).writeConfigLocked (.written nowMs)).2
      held) where
  saved := holdings_written _ nowMs held
  held := rfl
  live := by
    intro key live
    change (openedPort getFloat library state slot name baud).live key = true at live
    rw [live_openedPort] at live
    split at live
    · rename_i same
      have saved := mem_savedKeys_of_loadable getFloat library live
      rw [← same] at saved
      exact Or.inl saved
    · exact Or.inr live

theorem Connects.requires (connects : Connects getFloat library state target next) :
    (holdings state held).Requires (holdings next held)
      (ConnectKeeps getFloat library state target) := by
  cases connects with
  | unopened file forgets =>
      refine (quiet_holdings held file forgets).requires.congr (iff_of_true trivial ?_)
      intro connection found
      cases found
  | opened slot name baud nowMs =>
      refine (loaded_openedPort slot name baud nowMs).requires.congr ?_
      constructor
      · rintro inside connection ⟨⟩ key saved
        rw [← live_openedPort getFloat library state slot name baud key]
        exact inside saved
      · intro keeps key saved
        have live := keeps (slot, name) rfl key saved
        rw [← live_openedPort getFloat library state slot name baud key] at live
        exact live

theorem Connects.kept_before (connects : Connects getFloat library state target next)
    (sound : (holdings state held).Sound) (kept : (holdings next held).Kept) :
    (holdings state held).Kept := by
  cases connects with
  | unopened file forgets => exact (quiet_holdings held file forgets).kept_iff.mp kept
  | opened slot name baud nowMs =>
      exact (loaded_openedPort slot name baud nowMs).kept_before sound kept

end Steps

/-! ## Requests about one device -/

theorem hasSlave_eq_of_map_eq {devices others : List ManagedDevice}
    (same : others.map ManagedDevice.slaveId = devices.map ManagedDevice.slaveId)
    (slaveId : Int32) : hasSlave others slaveId = hasSlave devices slaveId := by
  rw [Bool.eq_iff_iff, ← not_iff_not, Bool.not_eq_true, Bool.not_eq_true,
    hasSlave_eq_false_iff, hasSlave_eq_false_iff, same]

theorem hasSlave_withThreshold (devices : List ManagedDevice) (slaveId other : Int32)
    (config : RequestedThresholds) :
    hasSlave (withThreshold devices slaveId config) other = hasSlave devices other := by
  apply hasSlave_eq_of_map_eq
  have addresses := congrArg (List.map Prod.fst) (map_withThreshold devices slaveId config)
  rw [List.map_map, List.map_map] at addresses
  exact addresses

theorem hasSlave_withoutSlave_of_ne (devices : List ManagedDevice) {slaveId other : Int32}
    (different : other ≠ slaveId) :
    hasSlave (withoutSlave devices slaveId) other = hasSlave devices other := by
  induction devices with
  | nil => rfl
  | cons device devices ih =>
      rw [withoutSlave] at ih ⊢
      by_cases named : device.slaveId = slaveId
      · rw [List.eraseP_cons_of_pos (by exact decide_eq_true named)]
        have notOther : device.slaveId ≠ other := fun same => different (same.symm.trans named)
        simp [hasSlave, notOther]
      · rw [List.eraseP_cons_of_neg (by simpa using named)]
        simp only [hasSlave, List.any_cons] at ih ⊢
        rw [ih]

/-- The addresses are distinct, so that nothing with the address is left. -/
theorem hasSlave_withoutSlave_self {devices : List ManagedDevice} (slaveId : Int32)
    (distinct : (devices.map ManagedDevice.slaveId).Nodup) :
    hasSlave (withoutSlave devices slaveId) slaveId = false := by
  induction devices with
  | nil => rfl
  | cons device devices ih =>
      rw [List.map_cons, List.nodup_cons] at distinct
      rw [withoutSlave] at ih ⊢
      by_cases named : device.slaveId = slaveId
      · rw [List.eraseP_cons_of_pos (by exact decide_eq_true named), hasSlave_eq_false_iff]
        exact named ▸ distinct.1
      · rw [List.eraseP_cons_of_neg (by simpa using named)]
        have rest := ih distinct.2
        simp only [hasSlave, List.any_cons] at rest ⊢
        rw [rest, Bool.or_false]
        exact decide_eq_false named

section Requests

variable {state : PortManager} {held heldNext : List (Slot × Int32)}

theorem live_setDevices (slot : Slot) (devices : List ManagedDevice) (key : Slot × Int32) :
    (state.setChannel slot { state.channels slot with devices := devices }).live key =
      if key.1 = slot then hasSlave devices key.2 else state.live key := by
  split
  · rename_i same
    rw [PortManager.live, same, PortManager.setChannel_self]
  · rename_i different
    rw [PortManager.live, PortManager.setChannel_other _ _ different]
    rfl

/-- One device of a channel is put in or taken out. -/
theorem touched_commitDevices {key : Slot × Int32} {changed : List ManagedDevice}
    (restored : List ManagedDevice) (success : String) (nowMs : Int64)
    (others : forall slaveId, slaveId ≠ key.2 ->
      hasSlave changed slaveId = hasSlave (state.channels key.1).devices slaveId)
    (kept : forall other, other ≠ key -> (other ∈ heldNext ↔ other ∈ held))
    (here : key ∈ heldNext ↔ hasSlave changed key.2 = true) :
    (holdings state held).Touched
      (holdings (commitDevices state key.1 changed restored success (.written nowMs)).2 heldNext)
      key where
  saved := holdings_written _ nowMs heldNext
  held := kept
  live := by
    intro other different
    change (state.setChannel key.1 _).live other = true ↔ state.live other = true
    rw [live_setDevices]
    split
    · rename_i same
      rw [others other.2 fun address => different (Prod.ext same address), ← same]
      rfl
    · rfl
  here := by
    refine here.trans ?_
    change _ ↔ (state.setChannel key.1 _).live key = true
    rw [live_setDevices, if_pos rfl]

theorem requestKeeps_some_iff (key : Slot × Int32) :
    RequestKeeps state (some key) ↔
      forall other, other ∈ savedKeys state.file -> other = key ∨ state.live other = true := by
  constructor
  · exact fun keeps => keeps key rfl
  · rintro keeps other ⟨⟩
    exact keeps

theorem requires_unanswered : (holdings state held).Requires (holdings state held)
    (RequestKeeps state none) := by
  refine (Holdings.Quiet.refl _).requires.congr (iff_of_true trivial ?_)
  intro key found
  cases found

theorem requires_addDevice (slot : Int32) (request : AddRequest) {outcome : WriteOutcome}
    (works : exists nowMs, outcome = .written nowMs) :
    (holdings state held).Requires
      (holdings (addDevice state slot request outcome).2
        (DeviceWorld.heldAfter ⟨state, held⟩ (.addDevice slot request outcome)))
      (RequestKeeps state (addTarget state slot request)) := by
  rcases works with ⟨nowMs, rfl⟩
  rw [DeviceWorld.heldAfter]
  cases found : addTarget state slot request with
  | none =>
      rcases addDevice_without_target found (.written nowMs) with ⟨reason, refused⟩
      rw [refused]
      cases validSlot slot <;> exact requires_unanswered
  | some key =>
      rcases addDevice_target found (.written nowMs) with ⟨valid, address, type, committed⟩
      have named : (request.device type).slaveId = key.2 := address
      rw [committed, valid, address]
      refine (touched_commitDevices _ "" nowMs ?_ ?_ ?_).requires.congr
        (requestKeeps_some_iff key).symm
      · intro slaveId different
        simp [hasSlave, named, different.symm]
      · intro other different
        exact ⟨fun inside => (List.mem_cons.mp inside).resolve_left different,
          List.mem_cons_of_mem _⟩
      · exact iff_of_true List.mem_cons_self (by simp [hasSlave, named])

theorem requires_setDeviceThreshold (slot slaveId : Int32)
    (config : Option RequestedThresholds) {outcome : WriteOutcome}
    (works : exists nowMs, outcome = .written nowMs) :
    (holdings state held).Requires
      (holdings (setDeviceThreshold state slot slaveId config outcome).2 held)
      (RequestKeeps state (thresholdTarget state slot slaveId config)) := by
  rcases works with ⟨nowMs, rfl⟩
  cases found : thresholdTarget state slot slaveId config with
  | none =>
      rcases setDeviceThreshold_without_target found (.written nowMs) with ⟨reason, refused⟩
      rw [refused]
      exact requires_unanswered
  | some key =>
      rcases setDeviceThreshold_target found (.written nowMs) with
        ⟨known, device, new, -, -, committed⟩
      rw [committed]
      have same : forall other, (state.setChannel key.1 { state.channels key.1 with
          devices := withThreshold (state.channels key.1).devices slaveId new }).live other =
          state.live other := by
        intro other
        rw [live_setDevices, hasSlave_withThreshold]
        split
        · rename_i own
          rw [← own, PortManager.live]
        · rfl
      have loaded : (holdings state held).Loaded (holdings (commitDevices state key.1
          (withThreshold (state.channels key.1).devices slaveId new)
          (withThreshold (state.channels key.1).devices slaveId
            (device.thresholdConfig.getD zeroThresholds)) "" (.written nowMs)).2
          held) :=
        ⟨holdings_written _ nowMs held, rfl, fun other live => Or.inr ((same other).symm.trans live)⟩
      refine loaded.requires.congr ?_
      rw [requestKeeps_some_iff]
      constructor
      · intro inside other saved
        exact Or.inr ((same other).symm.trans (inside saved))
      · intro keeps other saved
        have live : state.live other = true := by
          rcases keeps other saved with here | live
          · rw [here]
            exact known
          · exact live
        exact (same other).trans live

theorem requires_removeDevice (consistent : state.Consistent) (slot slaveId : Int32)
    {outcome : WriteOutcome} (works : exists nowMs, outcome = .written nowMs) :
    (holdings state held).Requires
      (holdings (removeDevice state slot slaveId outcome).2
        (DeviceWorld.heldAfter ⟨state, held⟩ (.removeDevice slot slaveId outcome)))
      (RequestKeeps state (removeTarget state slot slaveId)) := by
  rcases works with ⟨nowMs, rfl⟩
  rw [DeviceWorld.heldAfter]
  cases found : removeTarget state slot slaveId with
  | none =>
      rcases removeDevice_without_target found (.written nowMs) with ⟨reason, refused⟩
      rw [refused]
      cases validSlot slot <;> exact requires_unanswered
  | some key =>
      rcases removeDevice_target found (.written nowMs) with
        ⟨valid, address, removed, -, committed⟩
      rw [committed, valid, address]
      refine (touched_commitDevices _ "ok" nowMs ?_ ?_ ?_).requires.congr
        (requestKeeps_some_iff key).symm
      · intro other different
        exact hasSlave_withoutSlave_of_ne _ different
      · intro other different
        change other ∈ held.filter _ ↔ other ∈ held
        rw [List.mem_filter, decide_eq_true_eq]
        exact and_iff_left different
      · have gone := hasSlave_withoutSlave_self key.2 (consistent.channel key.1).devices.distinct
        rw [gone]
        refine iff_of_false ?_ Bool.false_ne_true
        intro inside
        exact of_decide_eq_true (List.mem_filter.mp inside).2 rfl

end Requests

/-! ## Whole runs -/

section Runs

variable (getFloat : Json -> Limit) (library : JsonC)

/-- What holds in every state, as long as the file works. -/
structure DeviceWorld.Sound (world : DeviceWorld) : Prop where
  manager : world.manager.Consistent
  holdings : (holdings world.manager world.held).Sound

theorem requires_step {world : DeviceWorld} (consistent : world.manager.Consistent)
    (event : PortEvent) (works : event.FileWorks) :
    (holdings world.manager world.held).Requires
      (holdings (world.step getFloat library event).manager
        (world.step getFloat library event).held)
      (KeepsDevices getFloat library world event) := by
  cases event with
  | connectPort slot port baud outcome =>
      exact (connects_connectPort getFloat library world.manager slot port baud works).requires
  | disconnectPort slot =>
      change Holdings.Requires _ (holdings (disconnectPort world.manager slot).2 world.held) True
      rcases disconnectPort_cases world.manager slot with same | ⟨index, closed⟩
      · rw [same]
        exact (Holdings.Quiet.refl _).requires
      · rw [closed]
        apply Holdings.Quiet.requires
        apply quiet_holdings
        · rfl
        · intro key live
          exact live_setChannel_of_nil rfl live
  | addDevice slot request outcome => exact requires_addDevice slot request works
  | setDeviceThreshold slot slaveId config outcome =>
      exact requires_setDeviceThreshold slot slaveId config works
  | removeDevice slot slaveId outcome => exact requires_removeDevice consistent slot slaveId works
  | restoreSavedConnections availablePorts outcomes =>
      have first := connects_restoreSlot getFloat library
        (loadSavedPortConfigs library world.manager.file) availablePorts world.manager 0 (works 0)
      have second := connects_restoreSlot getFloat library
        (loadSavedPortConfigs library world.manager.file) availablePorts
        (restoreSlot getFloat library (loadSavedPortConfigs library world.manager.file)
          availablePorts outcomes world.manager 0) 1 (works 1)
      exact first.requires.trans second.requires second.kept_before
  | fileReplaced content => exact works.elim
  | restarted =>
      change Holdings.Requires _ (holdings (.constructed world.manager.file) world.held) True
      apply Holdings.Quiet.requires
      apply quiet_holdings
      · rfl
      · intro key live
        cases live

theorem DeviceWorld.Sound.step {world : DeviceWorld} (sound : world.Sound) (event : PortEvent)
    (works : event.FileWorks) : (world.step getFloat library event).Sound where
  manager := consistent_step getFloat library sound.manager event
  holdings := (requires_step getFloat library sound.manager event works).sound sound.holdings

/-- No device is lost exactly if every connection and every request finds the
devices of the file. -/
theorem devices_kept_iff (file : Option Json) (events : List PortEvent)
    (works : (deviceSystem getFloat library file).Admissible (fun _ event => event.FileWorks)
      events) :
    (forall before after, events = before ++ after ->
        ((deviceSystem getFloat library file).run before).Kept) ↔
      (deviceSystem getFloat library file).Admissible (KeepsDevices getFloat library) events := by
  have start : DeviceWorld.Sound ⟨.constructed file, savedKeys file⟩ := by
    refine ⟨PortManager.consistent_constructed file, fun _ saved => saved, ?_⟩
    intro key live
    cases live
  apply (deviceSystem getFloat library file).everywhere_iff start (fun _ held => held)
  · exact fun _ event sound works => sound.step getFloat library event works
  · intro world event sound works kept
    exact (requires_step getFloat library sound.manager event works).kept_iff sound.holdings kept
  · exact works

end Runs

/-! ## Concrete runs -/

/-- A relay of the file. -/
def relayItem (slot slaveId : Int) : Json :=
  .obj [("slot", .int slot), ("slave_id", .int slaveId), ("device_type", .str "relay"),
    ("poll_interval_ms", .int 1000)]

/-- A file with both ports and some devices. -/
def savedFile (devices : List Json) : Json :=
  let port := fun (slot : Int) (name : String) =>
    Json.obj [("slot", .int slot), ("port", .str name), ("baud", .int 9600),
      ("auto_restore", .bool true)]
  .obj [("version", .int 1), ("ports", .arr [port 0 "/dev/ttymxc2", port 1 "/dev/ttymxc3"]),
    ("devices", .arr devices)]

/-- The board with a file that has these devices. -/
def relaySystem (devices : List Json) : TransitionSystem DeviceWorld PortEvent :=
  deviceSystem (fun _ => none) JsonC.jsonText (some (savedFile devices))

/-- A restart that finds both ports and can open them. -/
def restoreBoth : PortEvent :=
  .restoreSavedConnections ["/dev/ttymxc2", "/dev/ttymxc3"] fun _ => ⟨true, .written 5⟩

/-- A device is added to the second port, and the one of the first port is removed. -/
def movedRelay : List PortEvent :=
  [restoreBoth, .addDevice 1 ⟨4, some "relay", 1000, none, true⟩ (.written 6),
    .removeDevice 0 3 (.written 7), .disconnectPort 0]

theorem movedRelay_kept :
    ((relaySystem [relayItem 0 3]).run movedRelay).held = [(1, 4)] ∧
      forall before after, movedRelay = before ++ after ->
        ((relaySystem [relayItem 0 3]).run before).Kept := by
  refine ⟨by decide +kernel, ?_⟩
  apply (devices_kept_iff (fun _ => none) JsonC.jsonText _ movedRelay ?_).mpr
  · decide +kernel
  · exact ⟨fun _ => ⟨5, rfl⟩, ⟨6, rfl⟩, ⟨7, rfl⟩, trivial, trivial⟩

/-- If both ports have a device, the first connection after a restart writes
the file without the device of the second port. -/
theorem restored_device_lost :
    (relaySystem [relayItem 0 3, relayItem 1 4]).Admissible
        (fun _ event => event.FileWorks) [.restarted, restoreBoth] ∧
      ¬((relaySystem [relayItem 0 3, relayItem 1 4]).run [.restarted, restoreBoth]).Kept :=
  ⟨⟨trivial, fun _ => ⟨5, rfl⟩, trivial⟩, by decide +kernel⟩

end Board
end Imx6Gateway
