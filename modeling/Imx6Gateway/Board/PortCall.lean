import Imx6Gateway.Board.CommandHandler

namespace Imx6Gateway
namespace Board

open Library

/-!
# What the handlers ask of the port manager

The answers to a command say how the port manager's function ended.  Here is
the call itself: the slot the handler resolves and the other arguments it
hands over.  A handler that refuses the command makes no call.
-/

inductive PortCall where
  | addDevice (slot slaveId : Int32) (deviceType : String) (pollIntervalMs : Int32)
      (thresholds : Option RequestedThresholds)
  | removeDevice (slot slaveId : Int32)
  | setDeviceThreshold (slot slaveId : Int32) (config : RequestedThresholds)
  | handleRelay (slot slaveId deviceId : Int32) (mask : BitVec 16)
deriving DecidableEq

def PortCall.slot : PortCall -> Int32
  | addDevice slot _ _ _ _ => slot
  | removeDevice slot _ => slot
  | setDeviceThreshold slot _ _ => slot
  | handleRelay slot _ _ _ => slot

/-- The thresholds that are handed over. -/
def PortCall.thresholds : PortCall -> Option RequestedThresholds
  | addDevice _ _ _ _ thresholds => thresholds
  | setDeviceThreshold _ _ config => some config
  | removeDevice _ _ | handleRelay _ _ _ _ => none

/-- The commands whose handlers call the port manager for a device. -/
def deviceCommands : List String :=
  ["add_device", "remove_device", "set_relay", "set_device_threshold", "set_threshold"]

section Calls

variable (getFloat : Json -> Limit) (library : JsonC) (root : Json)

def slotMember (absent : Int32) : Int32 :=
  ((root.lookup "slot").map getInt).getD absent

/-- `handle_add_device`: the target goes before the slot. -/
def addDeviceSlot : Option Int32 :=
  match targetSlot library root with
  | some (.error _) => none
  | some (.ok slot) => some slot
  | none => some (slotMember root 0)

/-- `handle_remove_device`: the slot goes before the target. -/
def removeDeviceSlot : Option Int32 :=
  match targetSlot library root with
  | some (.error _) => none
  | some (.ok slot) => some (slotMember root slot)
  | none => some (slotMember root 0)

/-- The slot the handler of a command resolves. -/
def commandSlot (cmd : String) : Option Int32 :=
  if cmd = "add_device" then addDeviceSlot library root
  else if cmd = "remove_device" then removeDeviceSlot library root
  else if deviceCommands.contains cmd then some (slotMember root 0)
  else none

def addDeviceCall : Option PortCall := do
  let slot ← addDeviceSlot library root
  let device := (root.lookup "device").getD root
  let slaveId := jsonGetIntAny device slaveIdKeys 0
  let deviceType := jsonGetStringAny library device deviceTypeKeys "unknown"
  if slaveId.toInt ≤ 0 ∨ deviceType = "" ∨ deviceType = "unknown" then none
  else some (.addDevice slot slaveId deviceType (pollInterval device)
    (parseSensorThresholdConfig getFloat device))

def removeDeviceCall : Option PortCall := do
  let slot ← removeDeviceSlot library root
  some (.removeDevice slot (jsonGetIntAny root slaveIdKeys 0))

def setDeviceThresholdCall : Option PortCall := do
  let config ← parseSensorThresholdConfig getFloat root
  some (.setDeviceThreshold (slotMember root 0) (jsonGetIntAny root slaveIdKeys 0) config)

def setRelayCall : Option PortCall := do
  let mask ← requestedMask root
  let slaveId := jsonGetIntAny root slaveIdKeys 1
  some (.handleRelay (slotMember root 0) slaveId
    (jsonGetIntAny root ["device_id", "deviceId", "slave_id"] slaveId) mask)

/-- The call of the handler of a command. -/
def commandCall (cmd : String) : Option PortCall :=
  if cmd = "add_device" then addDeviceCall getFloat library root
  else if cmd = "remove_device" then removeDeviceCall library root
  else if cmd = "set_relay" then setRelayCall root
  else if deviceCommands.contains cmd then setDeviceThresholdCall getFloat root
  else none

theorem addDeviceCall_slot {call : PortCall}
    (called : addDeviceCall getFloat library root = some call) :
    addDeviceSlot library root = some call.slot := by
  rcases Option.bind_eq_some_iff.mp called with ⟨slot, resolved, rest⟩
  simp only at rest
  split at rest
  · cases rest
  · cases rest
    exact resolved

theorem removeDeviceCall_slot {call : PortCall}
    (called : removeDeviceCall library root = some call) :
    removeDeviceSlot library root = some call.slot := by
  rcases Option.bind_eq_some_iff.mp called with ⟨slot, resolved, rest⟩
  cases rest
  exact resolved

theorem setRelayCall_slot {call : PortCall} (called : setRelayCall root = some call) :
    call.slot = slotMember root 0 := by
  rcases Option.bind_eq_some_iff.mp called with ⟨mask, _, rest⟩
  cases rest
  rfl

theorem setDeviceThresholdCall_slot {call : PortCall}
    (called : setDeviceThresholdCall getFloat root = some call) :
    call.slot = slotMember root 0 := by
  rcases Option.bind_eq_some_iff.mp called with ⟨config, _, rest⟩
  cases rest
  rfl

/-- A call is for the slot its handler resolves. -/
theorem commandCall_slot {cmd : String} {call : PortCall}
    (called : commandCall getFloat library root cmd = some call) :
    commandSlot library root cmd = some call.slot := by
  unfold commandCall at called
  unfold commandSlot
  by_cases add : cmd = "add_device"
  · rw [if_pos add] at called ⊢
    exact addDeviceCall_slot getFloat library root called
  rw [if_neg add] at called ⊢
  by_cases remove : cmd = "remove_device"
  · rw [if_pos remove] at called ⊢
    exact removeDeviceCall_slot library root called
  rw [if_neg remove] at called ⊢
  by_cases relay : cmd = "set_relay"
  · rw [if_pos relay] at called
    rw [relay, if_pos (by decide), setRelayCall_slot root called]
  rw [if_neg relay] at called
  split at called
  · rename_i threshold
    rw [if_pos threshold, setDeviceThresholdCall_slot getFloat root called]
  · cases called

/-- Without a device object the thresholds are read from the message itself. -/
theorem commandCall_thresholds {cmd : String} {call : PortCall}
    (named : cmd = "add_device" ∨ cmd = "set_device_threshold" ∨ cmd = "set_threshold")
    (noDevice : root.lookup "device" = none)
    (called : commandCall getFloat library root cmd = some call) :
    call.thresholds = parseSensorThresholdConfig getFloat root := by
  have threshold : setDeviceThresholdCall getFloat root = some call ->
      call.thresholds = parseSensorThresholdConfig getFloat root := by
    intro here
    rcases Option.bind_eq_some_iff.mp here with ⟨config, parsed, rest⟩
    cases rest
    exact parsed.symm
  rcases named with rfl | rfl | rfl
  · rcases Option.bind_eq_some_iff.mp called with ⟨slot, _, rest⟩
    simp only [noDevice, Option.getD_none] at rest
    split at rest
    · cases rest
    · cases rest
      rfl
  · exact threshold called
  · exact threshold called

/-! ## The calls and the answers -/

variable (outcomes : CommandOutcomes) (context : AckContext) (seq : UInt32)

theorem handleAddDevice_called {cmd : String} {call : PortCall}
    (called : addDeviceCall getFloat library root = some call) :
    (handleAddDevice library outcomes context seq root cmd).topic = portUpTopic call.slot := by
  rcases Option.bind_eq_some_iff.mp called with ⟨slot, resolved, rest⟩
  unfold addDeviceSlot at resolved
  unfold handleAddDevice
  split at resolved
  · cases resolved
  all_goals
    rename_i target
    cases resolved
    rw [target]
    simp only at rest ⊢
    split at rest
    · cases rest
    · cases rest
      split_ifs <;> rfl

theorem handleAddDevice_notCalled {cmd : String}
    (notCalled : addDeviceCall getFloat library root = none) (others : CommandOutcomes) :
    handleAddDevice library outcomes context seq root cmd =
      handleAddDevice library others context seq root cmd := by
  unfold handleAddDevice
  split
  · rfl
  · rename_i accepted
    simp only
    split_ifs with missing untyped
    · rfl
    · rfl
    · exfalso
      have refused : (jsonGetIntAny ((root.lookup "device").getD root) slaveIdKeys 0).toInt ≤ 0 ∨
          jsonGetStringAny library ((root.lookup "device").getD root) deviceTypeKeys "unknown" =
            "" ∨
          jsonGetStringAny library ((root.lookup "device").getD root) deviceTypeKeys "unknown" =
            "unknown" := by
        by_contra called
        unfold addDeviceCall addDeviceSlot at notCalled
        split at notCalled
        · rename_i reason error
          exact accepted reason error
        · simp [called] at notCalled
        · simp [called] at notCalled
      rcases refused with few | untypedHere
      · exact missing few
      · exact untyped untypedHere

theorem handleRemoveDevice_called {cmd : String} {call : PortCall}
    (called : removeDeviceCall library root = some call) :
    (handleRemoveDevice library outcomes context seq root cmd).topic = portUpTopic call.slot := by
  rcases Option.bind_eq_some_iff.mp called with ⟨slot, resolved, rest⟩
  cases rest
  unfold removeDeviceSlot at resolved
  unfold handleRemoveDevice
  split at resolved
  · cases resolved
  all_goals
    rename_i target
    cases resolved
    rw [target]
    rfl

theorem handleRemoveDevice_notCalled {cmd : String}
    (notCalled : removeDeviceCall library root = none) (others : CommandOutcomes) :
    handleRemoveDevice library outcomes context seq root cmd =
      handleRemoveDevice library others context seq root cmd := by
  unfold handleRemoveDevice
  split
  · rfl
  · rename_i accepted
    unfold removeDeviceCall removeDeviceSlot at notCalled
    split at notCalled
    · rename_i reason error
      exact (accepted reason error).elim
    · cases notCalled
    · cases notCalled

theorem handleSetRelay_called {cmd : String} {call : PortCall}
    (called : setRelayCall root = some call) :
    (handleSetRelay outcomes context seq root cmd).topic = portUpTopic call.slot := by
  rcases Option.bind_eq_some_iff.mp called with ⟨mask, requested, rest⟩
  cases rest
  unfold handleSetRelay
  rw [requested]
  rfl

theorem handleSetRelay_notCalled {cmd : String} (notCalled : setRelayCall root = none)
    (others : CommandOutcomes) :
    handleSetRelay outcomes context seq root cmd = handleSetRelay others context seq root cmd := by
  have refused : requestedMask root = none := by
    cases requested : requestedMask root with
    | none => rfl
    | some mask =>
        rw [setRelayCall, requested] at notCalled
        cases notCalled
  unfold handleSetRelay
  rw [refused]

theorem handleSetDeviceThreshold_called {cmd : String} {call : PortCall}
    (called : setDeviceThresholdCall getFloat root = some call) :
    (handleSetDeviceThreshold getFloat outcomes context seq root cmd).topic =
      portUpTopic call.slot := by
  rcases Option.bind_eq_some_iff.mp called with ⟨config, parsed, rest⟩
  cases rest
  unfold handleSetDeviceThreshold
  rw [parsed]
  rfl

theorem handleSetDeviceThreshold_notCalled {cmd : String}
    (notCalled : setDeviceThresholdCall getFloat root = none) (others : CommandOutcomes) :
    handleSetDeviceThreshold getFloat outcomes context seq root cmd =
      handleSetDeviceThreshold getFloat others context seq root cmd := by
  have refused : parseSensorThresholdConfig getFloat root = none := by
    cases parsed : parseSensorThresholdConfig getFloat root with
    | none => rfl
    | some config =>
        rw [setDeviceThresholdCall, parsed] at notCalled
        cases notCalled
  unfold handleSetDeviceThreshold
  rw [refused]

theorem mem_deviceCommands {cmd : String} :
    cmd ∈ deviceCommands ↔ cmd = "add_device" ∨ cmd = "remove_device" ∨ cmd = "set_relay" ∨
      cmd = "set_device_threshold" ∨ cmd = "set_threshold" := by
  simp [deviceCommands]

theorem mem_deviceCommands_of_called {cmd : String} {call : PortCall}
    (called : commandCall getFloat library root cmd = some call) : cmd ∈ deviceCommands := by
  unfold commandCall at called
  split_ifs at called with add remove relay threshold
  · exact mem_deviceCommands.mpr (.inl add)
  · exact mem_deviceCommands.mpr (.inr (.inl remove))
  · exact mem_deviceCommands.mpr (.inr (.inr (.inl relay)))
  · exact List.contains_iff_mem.mp threshold

/-- The answer to a command with a call goes to the port of the call. -/
theorem processCommandMessage_called {cmd : String} {call : PortCall}
    (called : commandCall getFloat library root cmd = some call) :
    (processCommandMessage getFloat library outcomes context seq root cmd).map BoardAck.topic =
      some (portUpTopic call.slot) := by
  rcases mem_deviceCommands.mp (mem_deviceCommands_of_called getFloat library root called) with
    rfl | rfl | rfl | rfl | rfl
  · exact congrArg some (handleAddDevice_called getFloat library root outcomes context seq called)
  · exact congrArg some (handleRemoveDevice_called library root outcomes context seq called)
  · exact congrArg some (handleSetRelay_called root outcomes context seq called)
  · exact congrArg some (handleSetDeviceThreshold_called getFloat root outcomes context seq called)
  · exact congrArg some (handleSetDeviceThreshold_called getFloat root outcomes context seq called)

/-- A command without a call is answered without the port manager. -/
theorem processCommandMessage_notCalled {cmd : String} (device : cmd ∈ deviceCommands)
    (notCalled : commandCall getFloat library root cmd = none) (others : CommandOutcomes) :
    processCommandMessage getFloat library outcomes context seq root cmd =
      processCommandMessage getFloat library others context seq root cmd := by
  rcases mem_deviceCommands.mp device with rfl | rfl | rfl | rfl | rfl
  · exact congrArg some
      (handleAddDevice_notCalled getFloat library root outcomes context seq notCalled others)
  · exact congrArg some
      (handleRemoveDevice_notCalled library root outcomes context seq notCalled others)
  · exact congrArg some (handleSetRelay_notCalled root outcomes context seq notCalled others)
  · exact congrArg some
      (handleSetDeviceThreshold_notCalled getFloat root outcomes context seq notCalled others)
  · exact congrArg some
      (handleSetDeviceThreshold_notCalled getFloat root outcomes context seq notCalled others)

/-! ## Whole messages -/

/-- The command of a message that is dispatched. -/
def messageCommand : Option String :=
  let msgType := memberText library root "type"
  if msgType = some "ack" ∨ msgType ≠ none ∧ msgType ≠ some "" ∧ msgType ≠ some "command" then none
  else (getObjectAny root commandKeys).bind library.getString

/-- The slot a message is resolved to. -/
def messageSlot : Option Int32 :=
  (messageCommand library root).bind (commandSlot library (commandEffectiveRoot root))

/-- The call a message leads to. -/
def messageCall : Option PortCall :=
  (messageCommand library root).bind (commandCall getFloat library (commandEffectiveRoot root))

theorem messageCall_slot {call : PortCall} (called : messageCall getFloat library root = some call) :
    messageSlot library root = some call.slot := by
  rcases Option.bind_eq_some_iff.mp called with ⟨cmd, dispatched, here⟩
  rw [messageSlot, dispatched, Option.bind_some]
  exact commandCall_slot getFloat library _ here

/-- A dispatched message is answered by the handler of its command. -/
theorem processRoot_messageCommand (nowMs : Int64) {cmd : String}
    (dispatched : messageCommand library root = some cmd) :
    processRoot getFloat library outcomes root nowMs =
      processCommandMessage getFloat library outcomes
        ⟨setCurrentCmdId (jsonGetStringAny library root cmdIdKeys ""), nowMs⟩ (commandSeq root)
        (commandEffectiveRoot root) cmd := by
  unfold messageCommand at dispatched
  simp only at dispatched
  split at dispatched
  · cases dispatched
  · rename_i accepted
    rcases not_or.mp accepted with ⟨notAck, known⟩
    unfold processRoot
    simp only [if_neg notAck, dispatched, if_neg known]

end Calls
end Board
end Imx6Gateway
