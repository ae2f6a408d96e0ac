import Imx6Gateway.Board.PortCall
import Imx6Gateway.Link.LocalRuntime
import Imx6Gateway.Link.LocalTelemetry

namespace Imx6Gateway
namespace Link

open Library Board

/-!
# Switching a relay at the board itself

The interface on the board computes a command for one channel from the states
it was last told, and the command carries all four.  `RelayDevice::read` and
`RelayDevice::writeStates` are the two ends of the way: what is read of the
coils is shown, switched in one place, and written back.
-/

open LocalUi (Widget widgetSystem)

/-! ## Reading the coils -/

/-- The bitmap of `RelayDevice::read`. -/
def coilMask (coils : Fin 4 -> Bool) : BitVec 16 :=
  (List.range 4).foldl (fun mask coil =>
    if coils (Fin.ofNat 4 coil) then mask ||| (1#16 <<< coil) else mask) 0#16

theorem getLsbD_coilMask (coils : Fin 4 -> Bool) (bit : Nat) :
    (coilMask coils).getLsbD bit = (decide (bit < 4) && coils (Fin.ofNat 4 bit)) := by
  rw [coilMask, getLsbD_foldl_setBit (fun coil => coils (Fin.ofNat 4 coil)), BitVec.getLsbD_zero,
    Bool.false_or]
  congr 1
  rw [decide_eq_decide, List.mem_range]
  omega

theorem relayCoils_coilMask (coils : Fin 4 -> Bool) : relayCoils (coilMask coils) = coils := by
  funext coil
  rw [relayCoils, getLsbD_coilMask, decide_eq_true coil.isLt, Bool.true_and]
  congr 1
  exact Fin.ext (Nat.mod_eq_of_lt coil.isLt)

/-- What `RelayDevice::read` returns when all coils could be read. -/
def relayData (slaveId : Int32) (coils : Fin 4 -> Bool) : DeviceData :=
  ⟨slaveId, "", true, "", .relay (coilMask coils) 4⟩

/-! ## Switching one channel -/

theorem getLsbD_switched (states : BitVec 32) (bit : Nat) (on : Bool) {position : Nat}
    (small : position < 32) :
    (Widget.switched states bit on).getLsbD position =
      if position = bit then on else states.getLsbD position := by
  have single : (1#32 <<< bit).getLsbD position = decide (position = bit) := by
    rw [BitVec.getLsbD_shiftLeft, BitVec.getLsbD_one, Bool.eq_iff_iff]
    simp
    omega
  cases on with
  | false =>
      rw [Widget.switched, if_neg Bool.false_ne_true, BitVec.getLsbD_and, BitVec.getLsbD_not,
        single, decide_eq_true small, Bool.true_and]
      split
      · rename_i same
        rw [decide_eq_true same, Bool.not_true, Bool.and_false]
      · rename_i different
        rw [decide_eq_false different, Bool.not_false, Bool.and_true]
  | true =>
      rw [Widget.switched, if_pos rfl, BitVec.getLsbD_or, single]
      split
      · rename_i same
        rw [decide_eq_true same, Bool.or_true]
      · rename_i different
        rw [decide_eq_false different, Bool.or_false]

/-- The mask that the board makes of the states in a command. -/
theorem getLsbD_relayMask_states (states : BitVec 32) {bit : Nat} (small : bit < 4) :
    (relayMask ((List.range 4).map fun bit => .bool (states.getLsbD bit))).getLsbD bit =
      states.getLsbD bit := by
  rw [getLsbD_relayMask _ (by omega), List.getD_eq_getElem?_getD, List.getElem?_map,
    List.getElem?_range small]
  rfl

/-- The known states with one channel switched are the coils with it switched. -/
theorem relayCoils_switched (coils : Fin 4 -> Bool) (bit : Fin 4) (on : Bool) :
    relayCoils (relayMask ((List.range 4).map fun position =>
      .bool ((Widget.switched ((coilMask coils).setWidth 32) bit on).getLsbD position))) =
      Function.update coils bit on := by
  funext coil
  have small := coil.isLt
  have wide : (coil : Nat) < 32 := by omega
  have read : ((coilMask coils).setWidth 32).getLsbD coil = coils coil := by
    rw [BitVec.getLsbD_setWidth, decide_eq_true wide, Bool.true_and]
    exact congrFun (relayCoils_coilMask coils) coil
  rw [relayCoils, getLsbD_relayMask_states _ small, getLsbD_switched _ _ _ wide, read,
    Function.update_apply]
  simp only [Fin.ext_iff]

/-- The mask of the switched coils is what the interface waits for. -/
theorem switched_coilMask (coils : Fin 4 -> Bool) (bit : Fin 4) (on : Bool) :
    (coilMask (Function.update coils bit on)).setWidth 32 =
      Widget.switched ((coilMask coils).setWidth 32) bit on := by
  apply BitVec.eq_of_getLsbD_eq
  intro position wide
  rw [getLsbD_switched _ _ _ wide, BitVec.getLsbD_setWidth, BitVec.getLsbD_setWidth,
    decide_eq_true wide, Bool.true_and, Bool.true_and, getLsbD_coilMask, getLsbD_coilMask]
  have bound := bit.isLt
  by_cases small : position < 4
  · rw [decide_eq_true small, Bool.true_and, Bool.true_and, Function.update_apply]
    have same : Fin.ofNat 4 position = bit ↔ position = bit := by
      rw [Fin.ext_iff]
      change position % 4 = bit ↔ _
      rw [Nat.mod_eq_of_lt small]
    simp only [same]
  · rw [decide_eq_false small, Bool.false_and, Bool.false_and, if_neg]
    omega

/-! ## A reading arrives -/

section Cycle

variable (getFloat : Json -> Limit) (library : JsonC) (doubleOfText : String -> Rat)
  (fromJson : String -> Option Json)

/-- The line with a reading of the relay. -/
def relayFrame (slot : Slot) (slaveId : Int32) (coils : Fin 4 -> Bool) (seq : UInt32)
    (time : Int64) : String :=
  library.print (telemetryPackJson time
    (telemetryPackSingleForSlot seq time (slotNumber slot).toInt (relayData slaveId coils)))

theorem timestampMs_readValues (object : Json) (dev : LocalUi.DeviceData) :
    (LocalUi.readValues doubleOfText object dev).timestampMs = dev.timestampMs := by
  unfold LocalUi.readValues
  split <;> rfl

theorem timestampMs_parseDevice {time : Int64} (positive : 0 < time.toInt)
    (rootTimestampMs : Int) (dev : DeviceData) :
    (LocalUi.parseDevice doubleOfText rootTimestampMs (packDeviceJson time dev)).timestampMs =
      time.toInt := by
  have own : LocalUi.jsonInt64Any (packDeviceJson time dev) ["timestampMs", "timestamp"] 0 =
      time.toInt :=
    if_pos (ne_of_gt positive)
  have identity : (LocalUi.parseIdentity rootTimestampMs (packDeviceJson time dev)).timestampMs =
      time.toInt := by
    rw [LocalUi.parseIdentity]
    dsimp only
    rw [own, if_neg (not_le.mpr positive)]
  unfold LocalUi.parseDevice
  dsimp only
  split
  · rw [timestampMs_readValues, identity]
  · exact identity

theorem parseJson_relayFrame
    (reads : forall json, json.Wire Json.maxDepth -> fromJson (library.print json) = some json)
    (slot : Slot) (slaveId : Int32) (coils : Fin 4 -> Bool) (seq : UInt32) {time : Int64}
    (positive : 0 < time.toInt) :
    exists pack device, LocalUi.parseJson doubleOfText fromJson
        (relayFrame library slot slaveId coils seq time) = some pack ∧
      pack.masterSlot = (slotNumber slot).toInt ∧ pack.devices = [device] ∧
      device.deviceId = slaveId.toInt ∧ device.type = .relay ∧ device.valid = true ∧
      device.relayStates = coilMask coils ∧ device.timestampMs = time.toInt := by
  have tree := reads _ (wire_telemetryPackJson time
    (telemetryPackSingleForSlot seq time (slotNumber slot).toInt (relayData slaveId coils)))
  rcases LocalUi.parseJson_of_obj doubleOfText tree rfl rfl
    with ⟨pack, rootTimestampMs, parsed, masterSlot, devices⟩
  have same := parseDevice_pack doubleOfText time rootTimestampMs (relayData slaveId coils)
  refine ⟨pack, _, parsed, ?_, devices, same.1, same.2.1, same.2.2.1, same.2.2.2 rfl, ?_⟩
  · rw [masterSlot]
    have named : forall slot : Slot, LocalUi.slotFromPortId
        (fillSlotSite (slotNumber slot).toInt).portId = (slotNumber slot).toInt := by
      decide
    exact named slot
  · exact timestampMs_parseDevice doubleOfText positive rootTimestampMs (relayData slaveId coils)

/-- The slot of a status is the one its pack names. -/
theorem statusSlave_slot (widget : Widget) {masterSlot : Int} (named : 0 ≤ masterSlot)
    (deviceId : Int) : (widget.statusSlave masterSlot deviceId).1 = masterSlot := by
  have positive : ¬ masterSlot < 0 := not_lt.mpr named
  have known : ((widget.slaveDevices.find? fun slave =>
      slave.slaveAddr = deviceId && (masterSlot < 0 || slave.masterSlot = masterSlot)).map
        LocalUi.SlaveDeviceInfo.masterSlot).getD masterSlot = masterSlot := by
    cases found : widget.slaveDevices.find? fun slave =>
        slave.slaveAddr = deviceId && (masterSlot < 0 || slave.masterSlot = masterSlot) with
    | none => rfl
    | some slave =>
        have meets := List.find?_some found
        simp only [positive, decide_false, Bool.false_or, Bool.and_eq_true, decide_eq_true_eq]
          at meets
        exact meets.2
  unfold Widget.statusSlave
  dsimp only
  rw [known, if_neg positive, if_neg positive]

/-- A fresh reading of a relay at a connected port becomes its known states,
and ends the operation that waits for them. -/
theorem takeStatus_relay {widget : Widget} {nowMs masterSlot : Int} {device : LocalUi.DeviceData}
    (named : 0 ≤ masterSlot) (connected : masterSlot ∈ widget.connectedMasterSlots)
    (valid : device.valid = true) (type : device.type = .relay)
    (fresh : nowMs - device.timestampMs ≤ 30000) :
    exists online, widget.takeStatus nowMs masterSlot device =
      ({ widget with slaveDevices := online } : Widget).handleRelayTelemetryConfirm masterSlot
        device.deviceId (device.relayStates.setWidth 32) := by
  have slot := statusSlave_slot widget named device.deviceId
  have current : LocalUi.Widget.isStale nowMs device = false := by
    rw [LocalUi.Widget.isStale, decide_eq_false (not_lt.mpr fresh), Bool.and_false]
  refine ⟨LocalUi.updateSlaveOnline masterSlot device.deviceId "relay" true
    widget.slaveDevices, ?_⟩
  have parts : widget.statusSlave masterSlot device.deviceId =
      (masterSlot, (widget.statusSlave masterSlot device.deviceId).2) := Prod.ext slot rfl
  rw [Widget.takeStatus, parts]
  dsimp only
  rw [if_neg (not_not.mpr (List.contains_iff_mem.mpr connected)), valid, current, type]
  rfl

/-- The frame of a reading is telemetry. -/
theorem takeFrame_relayFrame
    (reads : forall json, json.Wire Json.maxDepth -> fromJson (library.print json) = some json)
    {widget : Widget} {slot : Slot}
    (connected : (slotNumber slot).toInt ∈ widget.connectedMasterSlots) (slaveId : Int32)
    (coils : Fin 4 -> Bool) (seq : UInt32) {time : Int64} (positive : 0 < time.toInt)
    {env : LocalUi.Surroundings} (fresh : env.nowMs - time.toInt ≤ 30000) :
    exists online, widget.takeFrame doubleOfText fromJson env
        (relayFrame library slot slaveId coils seq time) =
      some (({ widget with slaveDevices := online } : Widget).handleRelayTelemetryConfirm
        (slotNumber slot).toInt slaveId.toInt ((coilMask coils).setWidth 32)) := by
  rcases parseJson_relayFrame library doubleOfText fromJson reads slot slaveId coils seq positive
    with ⟨pack, device, parsed, masterSlot, devices, deviceId, type, valid, states, stamp⟩
  rcases takeStatus_relay (slotNumber_nonneg slot) connected valid type (stamp ▸ fresh)
    with ⟨online, taken⟩
  refine ⟨online, ?_⟩
  rw [deviceId, states] at taken
  have tree := reads _ (wire_telemetryPackJson time
    (telemetryPackSingleForSlot seq time (slotNumber slot).toInt (relayData slaveId coils)))
  have telemetry : widget.takeFrame doubleOfText fromJson env
      (relayFrame library slot slaveId coils seq time) =
        (LocalUi.parseJson doubleOfText fromJson
          (relayFrame library slot slaveId coils seq time)).elim (some widget) fun pack =>
            some (widget.handleDeviceStatus env.nowMs pack) := by
    unfold Widget.takeFrame
    rw [relayFrame, tree]
    cases LocalUi.parseJson doubleOfText fromJson (library.print _) with
    | none => rfl
    | some pack => rfl
  rw [telemetry, parsed, Option.elim_some, Widget.handleDeviceStatus, devices, masterSlot, List.foldl_cons, taken]
  rfl

theorem knownStates_handleRelayTelemetryConfirm (widget : Widget) (masterSlot slaveAddr : Int)
    (states : BitVec 32) :
    (widget.handleRelayTelemetryConfirm masterSlot slaveAddr states).knownStates masterSlot
      slaveAddr = states := by
  unfold Widget.knownStates Widget.handleRelayTelemetryConfirm
  dsimp only
  rw [Function.update_self, Option.getD_some]

/-- The states that an operation waits for end it. -/
theorem pendingRelay_handleRelayTelemetryConfirm {widget : Widget} {masterSlot slaveAddr : Int}
    {states : BitVec 32} {relay : LocalUi.PendingRelayCommand}
    (pending : widget.pendingRelay = some relay) (sameSlot : relay.masterSlot = masterSlot)
    (sameAddress : relay.slaveAddr = slaveAddr) (expected : relay.expectedStates = states) :
    (widget.handleRelayTelemetryConfirm masterSlot slaveAddr states).pendingRelay = none := by
  rw [Widget.handleRelayTelemetryConfirm]
  dsimp only
  rw [pending, Option.filter_some, if_neg]
  rw [decide_eq_true sameSlot, decide_eq_true sameAddress, decide_eq_true expected]
  exact Bool.false_ne_true

/-- What the board does with the command. -/
theorem messageCall_relay (slot : Slot) (slaveId : Int32) (states : BitVec 32) (seq : UInt32)
    (nowMs : Int) :
    messageCall getFloat library (LocalUi.commandMessage "set_relay"
        (Widget.relayPayload (slotNumber slot).toInt slaveId.toInt states) seq nowMs) =
      some (.handleRelay (slotNumber slot) slaveId slaveId
        (relayMask ((List.range 4).map fun bit => .bool (states.getLsbD bit)))) := by
  let payload := Widget.relayPayload (slotNumber slot).toInt slaveId.toInt states
  let root := LocalUi.commandMessage "set_relay" payload seq nowMs
  have dispatched : messageCommand library root = some "set_relay" := rfl
  have nested : root.lookup "payload" = some (.obj payload) := rfl
  have member : forall key, key ≠ "target" -> key ∉ copyKeys ->
      (commandEffectiveRoot root).lookup key = payload.lookup key := by
    intro key notTarget notCopied
    rw [lookup_commandEffectiveRoot root nested notTarget, if_neg notCopied]
  have states_member : (commandEffectiveRoot root).lookup "states" =
      some (LocalUi.relayStatesToArray states) :=
    (member "states" (by decide) (by decide)).trans rfl
  have slot_member : (commandEffectiveRoot root).lookup "slot" = some (jsonInt (slotNumber slot)) :=
    (member "slot" (by decide) (by decide)).trans rfl
  have slave_member : (commandEffectiveRoot root).lookup "slave_id" = some (jsonInt slaveId) :=
    (member "slave_id" (by decide) (by decide)).trans rfl
  have device_member : (commandEffectiveRoot root).lookup "device_id" = some (jsonInt slaveId) :=
    (member "device_id" (by decide) (by decide)).trans rfl
  have mask : requestedMask (commandEffectiveRoot root) =
      some (relayMask ((List.range 4).map fun bit => .bool (states.getLsbD bit))) := by
    rw [requestedMask, states_member]
    rfl
  have slave : jsonGetIntAny (commandEffectiveRoot root) slaveIdKeys 1 = slaveId := by
    rw [jsonGetIntAny, slaveIdKeys, getObjectAny, List.findSome?_cons, slave_member]
    exact getInt_jsonInt slaveId
  have device : forall other, jsonGetIntAny (commandEffectiveRoot root)
      ["device_id", "deviceId", "slave_id"] other = slaveId := by
    intro other
    rw [jsonGetIntAny, getObjectAny, List.findSome?_cons, device_member]
    exact getInt_jsonInt slaveId
  have number : slotMember (commandEffectiveRoot root) 0 = slotNumber slot := by
    rw [slotMember, slot_member]
    exact getInt_jsonInt (slotNumber slot)
  change messageCall getFloat library root = _
  rw [messageCall, dispatched, Option.bind_some]
  change setRelayCall (commandEffectiveRoot root) = _
  rw [setRelayCall, mask, Option.bind_eq_bind, Option.bind_some, slave]
  dsimp only
  rw [device, number]

/-- The request after a reading switches one of the coils that were read. -/
theorem handleRequest_relay {widget : Widget} {env : LocalUi.Surroundings} {slot : Slot}
    {slaveId : Int32} {states : BitVec 32} {channel : String} {bit : Nat}
    (named : Widget.relayBit channel = some bit) (on : Bool)
    (known : widget.knownStates (slotNumber slot).toInt slaveId.toInt = states)
    (online : widget.isConnected = true) (taken : env.taken widget.nextCommandSeq = true) :
    widget.handleRequest env (.relayCommand (slotNumber slot).toInt slaveId.toInt channel on) =
      { widget with
        nextCommandSeq := widget.nextCommandSeq + 1
        pendingCommands := Function.update widget.pendingCommands widget.nextCommandSeq
          (some "set_relay")
        sent := widget.sent ++ [LocalUi.commandMessage "set_relay"
          (Widget.relayPayload (slotNumber slot).toInt slaveId.toInt
            (Widget.switched states bit on)) widget.nextCommandSeq env.nowMs]
        pendingRelay := some
          { seq := widget.nextCommandSeq
            masterSlot := (slotNumber slot).toInt
            slaveAddr := slaveId.toInt
            oldStates := states
            expectedStates := Widget.switched states bit on
            ackReceived := false } } := by
  rw [Widget.handleRequest, Widget.requestRelay, named]
  dsimp only
  rw [known, Widget.sendCommand]
  dsimp only
  rw [if_neg (not_not.mpr online), if_neg (not_not.mpr taken)]

/-- The interface takes a reading, and then the user switches a channel.  The
board is told to switch the coils that were read in this one place, and its
next reading ends the operation. -/
theorem local_relay_switched
    (reads : forall json, json.Wire Json.maxDepth -> fromJson (library.print json) = some json)
    {before : Widget} {slot : Slot}
    (connected : (slotNumber slot).toInt ∈ before.connectedMasterSlots) (slaveId : Int32)
    (coils : Fin 4 -> Bool) (seq : UInt32) {time : Int64} (positive : 0 < time.toInt)
    {readEnv : LocalUi.Surroundings} (fresh : readEnv.nowMs - time.toInt ≤ 30000)
    {env : LocalUi.Surroundings} {channel : String} {bit : Fin 4}
    (named : Widget.relayBit channel = some bit.val) (on : Bool)
    (online : before.isConnected = true) (taken : env.taken before.nextCommandSeq = true) :
    exists requested message mask,
      (widgetSystem doubleOfText fromJson).runFrom (some before)
          [(readEnv, .received (relayFrame library slot slaveId coils seq time)),
            (env, .requested (.relayCommand (slotNumber slot).toInt slaveId.toInt channel on))] =
        some requested ∧
      requested.sent = before.sent ++ [message] ∧
      messageCall getFloat library message =
        some (.handleRelay (slotNumber slot) slaveId slaveId mask) ∧
      forall (ports : PortManager) (written : Bool) (result : Fin 4 -> Bool),
        (handleRelay ports (slotNumber slot) slaveId mask written).toOption = some result ->
        result = Function.update coils bit on ∧
        forall (nextSeq : UInt32) (nextTime : Int64) (nextEnv : LocalUi.Surroundings),
          0 < nextTime.toInt -> nextEnv.nowMs - nextTime.toInt ≤ 30000 ->
          exists final, requested.step doubleOfText fromJson nextEnv
              (.received (relayFrame library slot slaveId result nextSeq nextTime)) = some final ∧
            final.pendingRelay = none ∧
            final.knownStates (slotNumber slot).toInt slaveId.toInt =
              (coilMask result).setWidth 32 := by
  rcases takeFrame_relayFrame library doubleOfText fromJson reads connected slaveId coils seq
    positive fresh with ⟨slaves, read⟩
  let shown := ({ before with slaveDevices := slaves } : Widget).handleRelayTelemetryConfirm
    (slotNumber slot).toInt slaveId.toInt ((coilMask coils).setWidth 32)
  have known : shown.knownStates (slotNumber slot).toInt slaveId.toInt =
      (coilMask coils).setWidth 32 :=
    knownStates_handleRelayTelemetryConfirm _ _ _ _
  have request := @handleRequest_relay shown env slot slaveId _ channel bit named on known online
    taken
  refine ⟨shown.handleRequest env
    (.relayCommand (slotNumber slot).toInt slaveId.toInt channel on), _, _, ?_, ?_,
    messageCall_relay getFloat library slot slaveId
      (Widget.switched ((coilMask coils).setWidth 32) bit on) before.nextCommandSeq env.nowMs, ?_⟩
  · rw [TransitionSystem.runFrom_cons, TransitionSystem.runFrom_cons, TransitionSystem.runFrom_nil]
    change ((before.takeFrame doubleOfText fromJson readEnv _).bind fun widget =>
      widget.step doubleOfText fromJson env _) = _
    rw [read]
    rfl
  · rw [request]
    rfl
  · intro ports written result done
    have switched : result = Function.update coils bit on :=
      (handleRelay_done done).trans (relayCoils_switched coils bit on)
    refine ⟨switched, ?_⟩
    intro nextSeq nextTime nextEnv nextPositive nextFresh
    have still : (slotNumber slot).toInt ∈ (shown.handleRequest env
        (.relayCommand (slotNumber slot).toInt slaveId.toInt channel on)).connectedMasterSlots := by
      rw [request]
      exact connected
    rcases takeFrame_relayFrame library doubleOfText fromJson reads still slaveId result nextSeq
      nextPositive nextFresh with ⟨nextSlaves, final⟩
    refine ⟨_, final, ?_, knownStates_handleRelayTelemetryConfirm _ _ _ _⟩
    refine pendingRelay_handleRelayTelemetryConfirm (congrArg Widget.pendingRelay request) rfl rfl
      ?_
    rw [switched]
    exact (switched_coilMask coils bit on).symm

/-- The interface with a relay at the first port, and nothing known of it. -/
def relayWidget : Widget :=
  { isConnected := true
    connectedMasterSlots := [0]
    slaveDevices := [⟨0, 1, "relay", "", false⟩]
    relayStates := fun _ => none
    runtimePorts := fun _ => none
    pendingCommands := fun _ => none
    pendingAddSlave := none
    pendingRemoveSlave := none
    pendingRelay := none
    confirmTimers := []
    nextCommandSeq := 1
    sent := [] }

theorem local_relay_switched_fan :
    exists requested message mask,
      (widgetSystem (fun _ => 0) JsonText.parse).runFrom (some relayWidget)
          [(⟨1500, fun _ => true⟩, .received (relayFrame JsonC.jsonText 0 1 (fun coil => coil = 2)
              7 1000)),
            (⟨1600, fun _ => true⟩, .requested (.relayCommand 0 1 "fan" true))] = some requested ∧
      requested.sent = [] ++ [message] ∧
      messageCall (fun _ => none) JsonC.jsonText message = some (.handleRelay 0 1 1 mask) ∧
      forall (ports : PortManager) (written : Bool) (result : Fin 4 -> Bool),
        (handleRelay ports 0 1 mask written).toOption = some result ->
        result = Function.update (fun coil => decide (coil = (2 : Fin 4))) 1 true ∧
        forall (nextSeq : UInt32) (nextTime : Int64) (nextEnv : LocalUi.Surroundings),
          0 < nextTime.toInt -> nextEnv.nowMs - nextTime.toInt ≤ 30000 ->
          exists final, requested.step (fun _ => 0) JsonText.parse nextEnv
              (.received (relayFrame JsonC.jsonText 0 1 result nextSeq nextTime)) = some final ∧
            final.pendingRelay = none ∧
            final.knownStates 0 1 = (coilMask result).setWidth 32 :=
  @local_relay_switched (fun _ => none) JsonC.jsonText (fun _ => 0) JsonText.parse
    (JsonText.parse_print true) relayWidget 0 (by decide) 1 (fun coil => coil = 2) 7 1000
    (by decide) ⟨1500, fun _ => true⟩ (by decide) ⟨1600, fun _ => true⟩ "fan" 1 rfl true rfl rfl

end Cycle

end Link
end Imx6Gateway
