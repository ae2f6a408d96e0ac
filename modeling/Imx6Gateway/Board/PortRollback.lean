import Imx6Gateway.Board.SavedDevices

namespace Imx6Gateway
namespace Board

open Library

/-!
# Requests of the port manager that fail

The three requests about a device change the channel first and put back by
hand what they have changed if the file cannot be written.  The theorems say
exactly when what they put back is what was there.  A connection is not undone
at all.
-/

/-- A request about a device of a slot, with the outcome of the write. -/
inductive DeviceRequest where
  | addDevice (slot : Int32) (request : AddRequest) (outcome : WriteOutcome)
  | setDeviceThreshold (slot slaveId : Int32) (config : Option RequestedThresholds)
      (outcome : WriteOutcome)
  | removeDevice (slot slaveId : Int32) (outcome : WriteOutcome)

def DeviceRequest.run (state : PortManager) : DeviceRequest -> PortAnswer × PortManager
  | .addDevice slot request outcome => Board.addDevice state slot request outcome
  | .setDeviceThreshold slot slaveId config outcome =>
      Board.setDeviceThreshold state slot slaveId config outcome
  | .removeDevice slot slaveId outcome => Board.removeDevice state slot slaveId outcome

/-- If the request fails, every channel is as it was. -/
def RolledBack (state : PortManager) (result : PortAnswer × PortManager) : Prop :=
  forall reason, result.1 = .error reason -> result.2.channels = state.channels

theorem rolledBack_refused (state : PortManager) (reason : String) :
    RolledBack state (.error reason, state) :=
  fun _ _ => rfl

/-! ## What is put back -/

section Commit

variable (state : PortManager) (slot : Slot) (changed restored : List ManagedDevice)
  (success : String)

theorem rolledBack_written (nowMs : Int64) :
    RolledBack state (commitDevices state slot changed restored success (.written nowMs)) := by
  intro reason impossible
  cases impossible

theorem rolledBack_failed_iff (left : Option Json) :
    RolledBack state (commitDevices state slot changed restored success (.failed left)) ↔
      restored = (state.channels slot).devices := by
  have final : (commitDevices state slot changed restored success (.failed left)).2.channels =
      Function.update state.channels slot { state.channels slot with devices := restored } :=
    Function.update_idem ..
  constructor
  · intro holds
    have same := congrFun (holds "config_write_failed" rfl) slot
    rw [final, Function.update_self] at same
    exact congrArg PortChannel.devices same
  · intro same reason _
    rw [final, same]
    exact Function.update_eq_self ..

end Commit

/-- An element moves to the end of a list without a trace if only copies of it
stand behind it. -/
theorem append_singleton_eq_cons_iff {α : Type} {first : α} {rest : List α} :
    rest ++ [first] = first :: rest ↔ forall other, other ∈ rest -> other = first := by
  induction rest with
  | nil => simp
  | cons head rest ih =>
      rw [List.cons_append, List.cons_eq_cons, List.forall_mem_cons]
      apply and_congr_right
      intro same
      rw [same]
      exact ih

/-- The devices around the first one with an address. -/
theorem split_of_find {devices : List ManagedDevice} {slaveId : Int32} {found : ManagedDevice}
    (listed : (devices.find? fun device => device.slaveId = slaveId) = some found) :
    found.slaveId = slaveId ∧ exists before after, devices = before ++ found :: after ∧
      forall device, device ∈ before -> device.slaveId ≠ slaveId := by
  rcases List.find?_eq_some_iff_append.mp listed with ⟨named, before, after, split, earlier⟩
  refine ⟨of_decide_eq_true named, before, after, split, ?_⟩
  intro device member
  simpa using earlier device member

theorem withoutSlave_split {before after : List ManagedDevice} {slaveId : Int32}
    {found : ManagedDevice} (named : found.slaveId = slaveId)
    (earlier : forall device, device ∈ before -> device.slaveId ≠ slaveId) :
    withoutSlave (before ++ found :: after) slaveId = before ++ after := by
  rw [withoutSlave, List.eraseP_append_right _ (by simpa using earlier),
    List.eraseP_cons_of_pos (by exact decide_eq_true named)]

theorem withThreshold_split {before after : List ManagedDevice} {slaveId : Int32}
    {found : ManagedDevice} (named : found.slaveId = slaveId)
    (earlier : forall device, device ∈ before -> device.slaveId ≠ slaveId)
    (config : RequestedThresholds) :
    withThreshold (before ++ found :: after) slaveId config =
      before ++ found.setThresholdConfig config :: after := by
  induction before with
  | nil =>
      rw [List.nil_append, List.nil_append, withThreshold, List.replaceF_cons, if_pos named]
  | cons device before ih =>
      rw [List.forall_mem_cons] at earlier
      have rest := ih earlier.2
      rw [withThreshold] at rest ⊢
      rw [List.cons_append, List.cons_append, List.replaceF_cons, if_neg earlier.1, rest]

/-- The first device with the address, and nothing but copies of it behind it. -/
def IsLast (devices : List ManagedDevice) (slaveId : Int32) : Prop :=
  forall before found after, devices = before ++ found :: after -> found.slaveId = slaveId ->
    forall other, other ∈ after -> other = found

/-- A sensor that setting its own thresholds again does not change. -/
structure ManagedDevice.Settled (device : ManagedDevice) : Prop where
  configured : device.thresholdConfig.isSome = true
  temperature : device.lastTemperatureAlarm = false
  humidity : device.lastHumidityAlarm = false

theorem setThresholdConfig_eq_self_iff {device : ManagedDevice}
    (sensor : device.deviceType = .sensorTh) :
    device.setThresholdConfig (device.thresholdConfig.getD zeroThresholds) = device ↔
      device.Settled := by
  rw [ManagedDevice.setThresholdConfig, sensor]
  constructor
  · intro same
    constructor
    · exact (congrArg (fun device => device.thresholdConfig.isSome) same).symm
    · exact (congrArg ManagedDevice.lastTemperatureAlarm same).symm
    · exact (congrArg ManagedDevice.lastHumidityAlarm same).symm
  · rintro ⟨configured, temperature, humidity⟩
    rcases Option.isSome_iff_exists.mp configured with ⟨config, known⟩
    rcases device with ⟨slaveId, pollIntervalMs, type, config, first, second⟩
    cases known
    cases temperature
    cases humidity
    cases sensor
    rfl

/-! ## The three requests -/

/-- What the request puts back is what was there, if the write fails. -/
def DeviceRequest.Restores (state : PortManager) : DeviceRequest -> Prop
  | .addDevice _ _ _ => True
  | .setDeviceThreshold slot slaveId config outcome =>
      forall key left, thresholdTarget state slot slaveId config = some key ->
        outcome = .failed left -> forall device,
        ((state.channels key.1).devices.find? fun device => device.slaveId = slaveId) =
          some device -> device.Settled
  | .removeDevice slot slaveId outcome =>
      forall key left, removeTarget state slot slaveId = some key -> outcome = .failed left ->
        IsLast (state.channels key.1).devices slaveId

theorem rolledBack_threshold_iff {state : PortManager} {key : Slot × Int32} {slaveId : Int32}
    {device : ManagedDevice} (new : RequestedThresholds)
    (listed : ((state.channels key.1).devices.find? fun device => device.slaveId = slaveId) =
      some device) (sensor : device.deviceType = .sensorTh) (left : Option Json) :
    RolledBack state (commitDevices state key.1
        (withThreshold (state.channels key.1).devices slaveId new)
        (withThreshold (state.channels key.1).devices slaveId
          (device.thresholdConfig.getD zeroThresholds)) "" (.failed left)) ↔ device.Settled := by
  rcases split_of_find listed with ⟨named, before, after, split, earlier⟩
  rw [rolledBack_failed_iff, split, withThreshold_split named earlier, List.append_cancel_left_eq,
    List.cons_eq_cons, setThresholdConfig_eq_self_iff sensor]
  exact and_iff_left rfl

/-- Only the first device with the address is taken out. -/
theorem isLast_split_iff {before after : List ManagedDevice} {slaveId : Int32}
    {found : ManagedDevice} (named : found.slaveId = slaveId)
    (earlier : forall device, device ∈ before -> device.slaveId ≠ slaveId) :
    IsLast (before ++ found :: after) slaveId ↔ forall other, other ∈ after -> other = found := by
  constructor
  · exact fun last => last before found after rfl named
  · intro copies first device rest split addressed other inside
    rcases List.append_eq_append_iff.mp split with ⟨between, left, right⟩ | ⟨between, left, right⟩
    · cases between with
      | nil =>
          cases right
          exact copies other inside
      | cons head between =>
          rcases List.cons_eq_cons.mp right with ⟨rfl, later⟩
          have same := copies device (later ▸ List.mem_append_right _ List.mem_cons_self)
          have member : other ∈ after :=
            later ▸ List.mem_append_right _ (List.mem_cons_of_mem _ inside)
          rw [copies other member, same]
    · cases between with
      | nil =>
          cases right
          exact copies other inside
      | cons head between =>
          rcases List.cons_eq_cons.mp right with ⟨rfl, -⟩
          exact absurd addressed (earlier device (left ▸ List.mem_append_right _ List.mem_cons_self))

theorem rolledBack_remove_iff {state : PortManager} {key : Slot × Int32} {slaveId : Int32}
    {removed : ManagedDevice}
    (listed : ((state.channels key.1).devices.find? fun device => device.slaveId = slaveId) =
      some removed) (left : Option Json) :
    RolledBack state (commitDevices state key.1
        (withoutSlave (state.channels key.1).devices slaveId)
        (withoutSlave (state.channels key.1).devices slaveId ++ [removed]) "ok" (.failed left)) ↔
      IsLast (state.channels key.1).devices slaveId := by
  rcases split_of_find listed with ⟨named, before, after, split, earlier⟩
  rw [rolledBack_failed_iff, split, withoutSlave_split named earlier, List.append_assoc,
    List.append_cancel_left_eq, append_singleton_eq_cons_iff, isLast_split_iff named earlier]

/-- A request that fails leaves the channels as they were exactly if what it
puts back by hand is what was there. -/
theorem rolledBack_iff (state : PortManager) (request : DeviceRequest) :
    RolledBack state (request.run state) ↔ request.Restores state := by
  cases request with
  | addDevice slot request outcome =>
      refine iff_of_true ?_ trivial
      change RolledBack state (addDevice state slot request outcome)
      rcases addDevice_cases state slot request outcome with
        ⟨reason, refused⟩ | ⟨index, type, -, -, -, -, -, -, committed⟩
      · rw [refused]
        exact rolledBack_refused state reason
      · rw [committed]
        cases outcome with
        | written nowMs => exact rolledBack_written _ _ _ _ _ _
        | failed left => exact (rolledBack_failed_iff ..).mpr rfl
  | setDeviceThreshold slot slaveId config outcome =>
      change RolledBack state (setDeviceThreshold state slot slaveId config outcome) ↔ _
      cases found : thresholdTarget state slot slaveId config with
      | none =>
          rcases setDeviceThreshold_without_target found outcome with ⟨reason, refused⟩
          rw [refused]
          refine iff_of_true (rolledBack_refused state reason) ?_
          intro key left impossible
          rw [found] at impossible
          cases impossible
      | some key =>
          rcases setDeviceThreshold_target found outcome with
            ⟨-, device, new, listed, sensor, committed⟩
          rw [committed]
          cases outcome with
          | written nowMs =>
              refine iff_of_true (rolledBack_written _ _ _ _ _ _) ?_
              intro _ left _ impossible
              cases impossible
          | failed left =>
              rw [rolledBack_threshold_iff new listed sensor]
              constructor
              · intro settled other _ same _ first here
                rw [found] at same
                cases same
                rw [listed] at here
                cases here
                exact settled
              · exact fun restores => restores key left found rfl device listed
  | removeDevice slot slaveId outcome =>
      change RolledBack state (removeDevice state slot slaveId outcome) ↔ _
      cases found : removeTarget state slot slaveId with
      | none =>
          rcases removeDevice_without_target found outcome with ⟨reason, refused⟩
          rw [refused]
          refine iff_of_true (rolledBack_refused state reason) ?_
          intro key left impossible
          rw [found] at impossible
          cases impossible
      | some key =>
          rcases removeDevice_target found outcome with ⟨-, -, removed, listed, committed⟩
          rw [committed]
          cases outcome with
          | written nowMs =>
              refine iff_of_true (rolledBack_written _ _ _ _ _ _) ?_
              intro _ left _ impossible
              cases impossible
          | failed left =>
              rw [rolledBack_remove_iff listed]
              constructor
              · intro last other _ same _
                rw [found] at same
                cases same
                exact last
              · exact fun restores => restores key left found rfl

attribute [local instance] slots_neZero in
/-- Two relays on the first port, in the order in which they were added. -/
def twoRelays : PortManager :=
  (PortManager.constructed none).setChannel 0
    { connected := true
      port := "/dev/ttymxc2"
      baud := 9600
      bus := some ⟨"/dev/ttymxc2", 9600⟩
      devices := [createSensorDevice .relay 3 1000 none, createSensorDevice .relay 5 1000 none] }

/-- The first relay is to be removed, and the file cannot be written. -/
theorem removal_reorders :
    (removeDevice twoRelays 0 3 (.failed none)).1 = .error "config_write_failed" ∧
      ¬RolledBack twoRelays (removeDevice twoRelays 0 3 (.failed none)) := by
  refine ⟨by decide +kernel, ?_⟩
  intro holds
  have same := congrFun (holds "config_write_failed" (by decide +kernel)) 0
  have devices := congrArg PortChannel.devices same
  revert devices
  decide +kernel

/-! ## Connections -/

section Connections

variable (getFloat : Json -> Limit) (library : JsonC)

/-- The channel on an open port with the devices of a file. -/
def openedChannel (file : Option Json) (slot : Slot) (port : String) (baud : Int32) :
    PortChannel where
  connected := true
  port := port
  baud := baud
  bus := some ⟨port, baud⟩
  devices := ((savedItems file "devices").getD []).foldl (loadDevice getFloat library slot port) []

theorem openedPort_eq (state : PortManager) (slot : Slot) (port : String) (baud : Int32) :
    openedPort getFloat library state slot port baud =
      state.setChannel slot (openedChannel getFloat library state.file slot port baud) := by
  rw [openedPort, loadDevicesForSlotLocked, PortManager.setChannel_setChannel,
    PortManager.setChannel_self]
  rfl

/-- If the connection fails, the channels and the file are as they were. -/
def ConnectRolledBack (state : PortManager) (result : PortAnswer × PortManager) : Prop :=
  forall reason, result.1 = .error reason -> result.2 = state

/-- What a failure leaves is what was there: a cleared slot if the port cannot
be opened, the new connection and some file if the file cannot be written. -/
def ConnectRestores (state : PortManager) (slot : Int32) (port : Option String) (baud : Int32)
    (outcome : ConnectOutcome) : Prop :=
  forall index name, connectTarget state slot port baud true = some (index, name) ->
    (outcome.opened = false -> state.channels index = .cleared) ∧
      (outcome.opened = true -> forall left, outcome.write = .failed left ->
        state.channels index = openedChannel getFloat library state.file index name baud ∧
          left = state.file)

variable {state : PortManager} {slot : Int32} {port : Option String} {baud : Int32}

/-- A request that passes the checks depends on the port and on the write. -/
theorem connectPort_requested {index : Slot} {name : String}
    (found : connectTarget state slot port baud true = some (index, name))
    (outcome : ConnectOutcome) :
    connectPort getFloat library state slot port baud outcome =
      if ¬outcome.opened then (.error "open_port_failed", state.setChannel index .cleared)
      else
        match (openedPort getFloat library state index name baud).writeConfigLocked
          outcome.write with
        | (true, written) => (.ok "", written)
        | (false, failed) => (.error "config_write_failed", failed) := by
  unfold connectTarget at found
  unfold connectPort
  cases valid : validSlot slot with
  | none =>
      rw [valid] at found
      cases found
  | some own =>
      rw [valid] at found
      cases port with
      | none => cases found
      | some given =>
          dsimp only at found ⊢
          split_ifs at found with checked
          cases found
          rcases checked with ⟨named, rate, unused, -⟩
          refine (if_neg (not_or.mpr ⟨named, not_le.mpr rate⟩)).trans ?_
          rw [unused]
          exact if_neg Bool.false_ne_true

theorem connectPort_refused (missing : connectTarget state slot port baud true = none)
    (outcome : ConnectOutcome) :
    exists reason, connectPort getFloat library state slot port baud outcome =
      (.error reason, state) := by
  unfold connectTarget at missing
  unfold connectPort
  cases valid : validSlot slot with
  | none => exact ⟨_, rfl⟩
  | some own =>
      rw [valid] at missing
      cases port with
      | none => exact ⟨_, rfl⟩
      | some given =>
          dsimp only at missing ⊢
          split_ifs at missing with checks
          split
          · exact ⟨_, rfl⟩
          · rename_i wellFormed
            split
            · exact ⟨_, rfl⟩
            · rename_i unused
              rw [not_or] at wellFormed
              exact absurd ⟨wellFormed.1, not_le.mp wellFormed.2, Bool.eq_false_iff.mpr unused,
                rfl⟩ checks

end Connections

/-- The channel is replaced, and the file. -/
theorem PortManager.replaced_eq_self_iff {state : PortManager} {slot : Slot}
    {channel : PortChannel} {file : Option Json} :
    (⟨(state.setChannel slot channel).channels, file⟩ : PortManager) = state ↔
      state.channels slot = channel ∧ file = state.file := by
  constructor
  · intro same
    have here := congrFun (congrArg PortManager.channels same) slot
    exact ⟨here.symm.trans (state.setChannel_self slot channel), congrArg PortManager.file same⟩
  · rintro ⟨rfl, rfl⟩
    rw [setChannel, Function.update_eq_self]

section Connections

variable (getFloat : Json -> Limit) (library : JsonC)

/-- A connection that fails leaves everything as it was exactly if what it
leaves is what was there. -/
theorem connectRolledBack_iff (state : PortManager) (slot : Int32) (port : Option String)
    (baud : Int32) (outcome : ConnectOutcome) :
    ConnectRolledBack state (connectPort getFloat library state slot port baud outcome) ↔
      ConnectRestores getFloat library state slot port baud outcome := by
  cases found : connectTarget state slot port baud true with
  | none =>
      rcases connectPort_refused getFloat library found outcome with ⟨reason, refused⟩
      rw [refused]
      refine iff_of_true (fun _ _ => rfl) ?_
      intro index name impossible
      rw [found] at impossible
      cases impossible
  | some target =>
      rcases target with ⟨index, name⟩
      have reached : ConnectRestores getFloat library state slot port baud outcome ↔
          (outcome.opened = false -> state.channels index = .cleared) ∧
            (outcome.opened = true -> forall left, outcome.write = .failed left ->
              state.channels index = openedChannel getFloat library state.file index name baud ∧
                left = state.file) := by
        constructor
        · exact fun restores => restores index name found
        · intro holds other given here
          rw [found] at here
          cases here
          exact holds
      rw [reached, connectPort_requested getFloat library found, openedPort_eq]
      rcases outcome with ⟨opened, write⟩
      cases opened with
      | false =>
          rw [if_pos (by simp)]
          constructor
          · intro holds
            have same := PortManager.replaced_eq_self_iff.mp (holds "open_port_failed" rfl)
            exact ⟨fun _ => same.1, fun impossible => (nomatch impossible)⟩
          · rintro ⟨cleared, -⟩ reason _
            exact PortManager.replaced_eq_self_iff.mpr ⟨cleared rfl, rfl⟩
      | true =>
          rw [if_neg (by simp)]
          cases write with
          | written nowMs =>
              refine iff_of_true ?_ ?_
              · intro reason impossible
                cases impossible
              · refine ⟨fun impossible => (nomatch impossible), ?_⟩
                intro _ left impossible
                cases impossible
          | failed left =>
              constructor
              · intro holds
                have same := PortManager.replaced_eq_self_iff.mp (holds "config_write_failed" rfl)
                refine ⟨fun impossible => (nomatch impossible), ?_⟩
                rintro _ other ⟨⟩
                exact same
              · rintro ⟨-, kept⟩ reason _
                exact PortManager.replaced_eq_self_iff.mpr (kept rfl left rfl)

/-- A connected port is to be opened with another rate, and does not open. -/
theorem failed_connection_disconnects :
    (connectPort (fun _ => none) JsonC.jsonText twoRelays 0 (some "/dev/ttymxc2") 19200
        ⟨false, .written 5⟩).1 = .error "open_port_failed" ∧
      ¬ConnectRolledBack twoRelays (connectPort (fun _ => none) JsonC.jsonText twoRelays 0
        (some "/dev/ttymxc2") 19200 ⟨false, .written 5⟩) := by
  refine ⟨by decide +kernel, ?_⟩
  intro holds
  have same := congrArg (fun state => (state.channels 0).connected)
    (holds "open_port_failed" (by decide +kernel))
  revert same
  decide +kernel

end Connections

end Board
end Imx6Gateway
