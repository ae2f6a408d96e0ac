import Imx6Gateway.Pc.CommandForward

namespace Imx6Gateway
namespace Pc

open Library

/-!
# Commands for the devices of a port

The three branches that forward a device command write the same frame around
different members.  Here is the frame, with the slot that ends up in it, and
the members of the inner payload in which thresholds are passed on.
-/

/-- The slot a request names itself; a negative one names none. -/
def namedSlot (root : Json) : Int :=
  if commandNameFrom root = "add_device" ∨ commandNameFrom root = "remove_device" then
    getJsonInt root "slot" (getJsonInt root "master_slot" (-1))
  else requestSlot (payloadObjectOrRoot root) root

/-- The command under which a request goes to the board. -/
def forwardedCommand (root : Json) : String :=
  if commandNameFrom root = "set_threshold" then "set_device_threshold" else commandNameFrom root

def portCommands : List String :=
  ["add_device", "remove_device", "set_relay", "set_device_threshold", "set_threshold"]

/-- The frame of a forwarded command. -/
structure PortCommand (payload : Json) (cmd : String) (slot : Int)
    (body : List (String × Json)) : Prop where
  isCommand : payload.lookup "type" = some (.str "command")
  named : payload.lookup "cmdType" = some (.str cmd)
  untargeted : payload.lookup "target" = none
  nested : payload.lookup "payload" = some (.obj body)
  bodyUntargeted : body.lookup "target" = none
  slotMember : body.lookup "slot" = some (.int slot)

/-- The inner payload of `set_device_threshold`. -/
def thresholdBody (slot slaveId : Int) (enabled : Bool) (thresholds : String × Json) :
    List (String × Json) :=
  [("slot", .int slot), ("slave_id", .int slaveId), ("deviceId", .int slaveId),
    ("threshold_enabled", .bool enabled), thresholds]

/-- The inner payload of `remove_device`, and of `add_device` with more members. -/
def deviceBody (slot deviceId : Int) (more : List (String × Json)) : List (String × Json) :=
  [("slot", .int slot), ("slave_id", .int deviceId), ("deviceId", .int deviceId)] ++ more

/-- What `add_device` adds to the inner payload. -/
def addDeviceBody (deviceType : String) (pollIntervalMs : Int)
    (thresholds : Option (String × Json)) : List (String × Json) :=
  [("device_type", .str deviceType), ("deviceType", .str deviceType),
    ("poll_interval_ms", .int pollIntervalMs), ("pollIntervalMs", .int pollIntervalMs)] ++
    thresholds.toList

def thresholdSpellings : List String :=
  ["thresholds", "threshold_config", "thresholdConfig"]

theorem thresholdMember_spelling {object value : Json} {key : String}
    (found : thresholdMember object = some (key, value)) :
    key ∈ thresholdSpellings ∧ memberObject object key = some value := by
  rcases List.exists_of_findSome?_eq_some found with ⟨spelling, listed, here⟩
  rcases Option.map_eq_some_iff.mp here with ⟨object, present, same⟩
  cases same
  exact ⟨listed, present⟩

theorem lookup_thresholdMember (object : Json) {key : String} (other : key ∉ thresholdSpellings) :
    (thresholdMember object).toList.lookup key = none := by
  cases found : thresholdMember object with
  | none => rfl
  | some thresholds =>
      have spelling := (thresholdMember_spelling found).1
      have differs : key ≠ thresholds.1 := fun same => other (same ▸ spelling)
      simp [differs]

theorem lookup_thresholdBody {object : Json} {slot slaveId : Int} {enabled : Bool} {key : String}
    {thresholds : String × Json} (given : thresholdMember object = some thresholds)
    (other : key ∉ ["slot", "slave_id", "deviceId", "threshold_enabled"] ++ thresholdSpellings) :
    (thresholdBody slot slaveId enabled thresholds).lookup key = none := by
  rw [List.mem_append, not_or] at other
  have spelled := lookup_thresholdMember object other.2
  rw [given] at spelled
  have frame := other.1
  simp only [List.mem_cons, List.not_mem_nil, or_false, not_or] at frame
  simp [thresholdBody, List.lookup_cons, beq_eq_false_iff_ne.mpr, frame] at spelled ⊢
  exact spelled

theorem forwardSetRelay_portCommand {context : CommandContext} {root payload : Json}
    {cmdId gatewayId portId topic : String} {pending : PendingCommandTarget}
    (published : forwardSetRelay context root cmdId gatewayId portId =
      .publish topic payload pending) :
    0 ≤ requestSlot (payloadObjectOrRoot root) root ∧
      exists body, PortCommand payload "set_relay" (requestSlot (payloadObjectOrRoot root) root)
        body := by
  have accepted : 0 ≤ requestSlot (payloadObjectOrRoot root) root := by
    simp only [forwardSetRelay] at published
    split at published
    · cases published
    · cases published
    · split at published
      · cases published
      · rename_i complete
        simp only [not_or, not_lt] at complete
        exact complete.2.2.2.1
  rcases forwardSetRelay_publish published with ⟨-, states, flags, -, -, -, rfl⟩
  exact ⟨accepted, _, rfl, rfl, rfl, rfl, rfl, rfl⟩

theorem forwardThreshold_portCommand {context : CommandContext} {root payload : Json}
    {cmdId gatewayId portId commandType topic : String} {pending : PendingCommandTarget}
    (published : forwardThreshold context root cmdId gatewayId portId commandType =
      .publish topic payload pending) :
    exists slot thresholds,
      slotFromPortId portId (requestSlot (payloadObjectOrRoot root) root) = some slot ∧
      thresholdMember (payloadObjectOrRoot root) = some thresholds ∧
      PortCommand payload "set_device_threshold" slot
        (thresholdBody slot (thresholdDeviceId root) (thresholdEnabled (payloadObjectOrRoot root))
          thresholds) := by
  simp only [forwardThreshold] at published
  split at published
  · cases published
  · rename_i slot resolved
    split at published
    · cases published
    · rename_i thresholds given
      split at published
      · cases published
      · have rest := getD_portRefusal published
        cases rest
        rcases thresholds with ⟨key, value⟩
        have spelling := (thresholdMember_spelling given).1
        simp only [thresholdSpellings, List.mem_cons, List.not_mem_nil, or_false] at spelling
        refine ⟨slot, _, resolved, given, rfl, rfl, ?_, ?_, ?_, rfl⟩
        · rcases spelling with rfl | rfl | rfl <;> rfl
        · rcases spelling with rfl | rfl | rfl <;> rfl
        · rcases spelling with rfl | rfl | rfl <;> rfl

/-- The members of `add_device` besides the frame. -/
theorem lookup_addDeviceMembers {root : Json} {deviceId pollIntervalMs : Int}
    {deviceType key : String} (other : key ∉ ["device_type", "poll_interval_ms", "device",
      "threshold_enabled", "thresholds", "threshold_config", "thresholdConfig"]) :
    (addDeviceMembers root deviceId deviceType pollIntervalMs).lookup key = none := by
  simp only [List.mem_cons, List.not_mem_nil, or_false, not_or] at other
  have unspelled : key ∉ thresholdSpellings := by
    simp [thresholdSpellings, other]
  have given := lookup_thresholdMember root unspelled
  unfold addDeviceMembers
  cases found : thresholdMember root with
  | none => simp [List.lookup_cons, beq_eq_false_iff_ne.mpr, other]
  | some thresholds =>
      rw [found] at given
      simp [List.lookup_cons, beq_eq_false_iff_ne.mpr, other] at given ⊢
      exact given

theorem lookup_addDeviceBody {root : Json} {pollIntervalMs : Int} {deviceType key : String}
    (other : key ∉ ["device_type", "deviceType", "poll_interval_ms", "pollIntervalMs"]) :
    (addDeviceBody deviceType pollIntervalMs (thresholdMember root)).lookup key =
      (thresholdMember root).toList.lookup key := by
  simp only [List.mem_cons, List.not_mem_nil, or_false, not_or] at other
  rw [addDeviceBody, List.lookup_append]
  simp [List.lookup_cons, beq_eq_false_iff_ne.mpr, other]

theorem forwardDevice_portCommand {context : CommandContext} {root payload : Json}
    {cmdId gatewayId portId commandType topic : String} {pending : PendingCommandTarget}
    (published : forwardDevice context root cmdId gatewayId portId commandType =
      .publish topic payload pending) :
    exists slot, slotFromPortId portId
        (getJsonInt root "slot" (getJsonInt root "master_slot" (-1))) = some slot ∧
      PortCommand payload commandType slot (deviceBody slot (deviceCommandId root)
        (if commandType = "add_device" then
          addDeviceBody (deviceCommandType root) (getJsonIntAny
            ((memberObject root "device").getD .null) ["pollIntervalMs", "poll_interval_ms"] 1000)
            (thresholdMember root)
        else [])) := by
  simp only [forwardDevice] at published
  split at published
  · cases published
  · have rest := getD_portRefusal published
    split at rest
    · cases rest
    · rename_i slot resolved
      cases rest
      refine ⟨slot, resolved, rfl, rfl, ?_, ?_, ?_, rfl⟩
      · by_cases add : commandType = "add_device"
        · simp [add, List.lookup_append, lookup_addDeviceMembers, List.lookup_cons]
        · simp [add, List.lookup_cons]
      · by_cases add : commandType = "add_device"
        · simp [add, List.lookup_append, lookup_addDeviceMembers, List.lookup_cons, deviceBody, addDeviceBody]
        · simp [add, List.lookup_cons, deviceBody]
      · rw [deviceBody, List.lookup_append]
        by_cases add : commandType = "add_device"
        · rw [if_pos add, lookup_addDeviceBody (by decide), lookup_thresholdMember _ (by decide)]
          rfl
        · rw [if_neg add]
          rfl

theorem mem_portCommands {cmd : String} :
    cmd ∈ portCommands ↔ cmd = "add_device" ∨ cmd = "remove_device" ∨ cmd = "set_relay" ∨
      cmd = "set_device_threshold" ∨ cmd = "set_threshold" := by
  simp [portCommands]

/-- A forwarded device command has the frame of its command, with the slot
that comes from the request's own slot and its port. -/
theorem handleCommand_portCommand {context : CommandContext} {root payload : Json}
    {cmdId topic : String} {pending : PendingCommandTarget}
    (published : handleCommand context root cmdId = .publish topic payload pending)
    (device : commandNameFrom root ∈ portCommands) :
    exists slot body, slotFromPortId (requestPortId root) (namedSlot root) = some slot ∧
      PortCommand payload (forwardedCommand root) slot body := by
  have accepted := handleCommand_accepted published
  unfold namedSlot forwardedCommand
  rcases mem_portCommands.mp device with add | remove | relay | threshold | short
  · simp only [add] at accepted ⊢
    rcases forwardDevice_portCommand accepted with ⟨slot, resolved, command⟩
    exact ⟨slot, _, resolved, command⟩
  · simp only [remove] at accepted ⊢
    rcases forwardDevice_portCommand accepted with ⟨slot, resolved, command⟩
    exact ⟨slot, _, resolved, command⟩
  · simp only [relay] at accepted ⊢
    rcases forwardSetRelay_portCommand accepted with ⟨named, body, command⟩
    exact ⟨_, body, if_pos named, command⟩
  · simp only [threshold] at accepted ⊢
    rcases forwardThreshold_portCommand accepted with ⟨slot, thresholds, resolved, -, command⟩
    exact ⟨slot, _, resolved, command⟩
  · simp only [short] at accepted ⊢
    rcases forwardThreshold_portCommand accepted with ⟨slot, thresholds, resolved, -, command⟩
    exact ⟨slot, _, resolved, command⟩

end Pc
end Imx6Gateway
