import Imx6Gateway.Board.CommandHandler
import Imx6Gateway.Link.TelemetryRoundTrip
import Imx6Gateway.Pc.CommandForward
import Imx6Gateway.Ui.RelayCommand

namespace Imx6Gateway
namespace Link

open Library Board

/-!
# Switching one relay channel

A user switches one channel, and the interface sends the states of all
channels back to the board.  `relayWrite` follows the mask of a relay through
the telemetry, the points of Pc_data, the channel map of the interface, the
command and its forwarding, to the mask the board writes.  It has no value if
one of the programs stops the chain.  The theorem says exactly when the other
channels keep their states.
-/

/-- The mask with one bit replaced. -/
def replaceBit (mask : BitVec 16) (bit : Nat) (value : Bool) : BitVec 16 :=
  if value then mask ||| (1#16 <<< bit) else mask &&& ~~~(1#16 <<< bit)

theorem getLsbD_replaceBit (mask : BitVec 16) (bit : Nat) (value : Bool) {position : Nat}
    (small : position < 16) :
    (replaceBit mask bit value).getLsbD position =
      if position = bit then value else mask.getLsbD position := by
  have single := getLsbD_one_shiftLeft bit position
  cases value
  · simp only [replaceBit, Bool.false_eq_true, if_false, BitVec.getLsbD_and, BitVec.getLsbD_not,
      single]
    by_cases same : position = bit
    · simp [same, same ▸ small]
    · rw [if_neg same]
      simp [same, small]
  · simp only [replaceBit, if_true, BitVec.getLsbD_or, single]
    by_cases same : position = bit
    · simp [same, same ▸ small]
    · rw [if_neg same]
      simp [same]

/-- The payload of a forwarded command. -/
def forwardedJson : Pc.Forward -> Option Json
  | .publish _ payload _ => some payload
  | _ => none

section Chain

variable (link : Exchange) (stod : String -> Option Rat) (seq : UInt32) (nowMs : Int64)
  (slot : Int) (dev : DeviceData) (pcNow : Int) (key : String) (cmdId : String) (timestamp : Int)
  (databaseOpen portConnected : Bool) (clock : Int64) (channel : Nat) (value : Bool)

/-- The command for one channel, from the board's telemetry and with no other
command pending.  The user has selected the device with the key. -/
def relayCommand : Option Json := do
  let text ← telemetryPackToJson link.board nowMs 4096
    (telemetryPackSingleForSlot seq nowMs slot dev)
  let pack ← (Pc.parseJson stod link.pc pcNow text).toOption
  let data ← Ui.buildRealtimeDeviceData (Ui.groupOf key (Pc.toTelemetryPoints pack))
  Ui.sendRelayCommand Ui.PendingRelays.none cmdId timestamp data.node (Pc.relayKey channel) value
    (Ui.shownChannels data)

/-- The mask that `set_relay` writes in the end. -/
def relayWrite : Option (BitVec 16) := do
  let command ← relayCommand link stod seq nowMs slot dev pcNow key cmdId timestamp channel value
  let payload ← forwardedJson
    (Pc.handleCommand ⟨databaseOpen, portConnected, clock.toInt⟩ command cmdId)
  let received ← link.board.parse (link.pc.print payload)
  requestedMask (commandEffectiveRoot received)

/-- The states of the command: the new one, and the first channel's old one. -/
theorem relayCommand_states {relayStates : BitVec 16} {channelCount : Int32}
    (shape : dev.reading = .relay relayStates channelCount) {command : Json}
    (sent : relayCommand link stod seq nowMs slot dev pcNow key cmdId timestamp channel value =
      some command) :
    exists node states, command =
        Ui.relayCommandJson cmdId timestamp node (Pc.relayKey channel) value states ∧
      forall index, index < 16 -> states.getD index false =
        if index + 1 = channel then value else (relayStates &&& 1).getLsbD index := by
  rcases Option.bind_eq_some_iff.mp sent with ⟨text, encoded, afterText⟩
  rcases Option.bind_eq_some_iff.mp afterText with ⟨pack, isPack, afterPack⟩
  rcases Option.bind_eq_some_iff.mp afterPack with ⟨data, built, command⟩
  rcases parseJson_telemetryPack stod nowMs pcNow _ (parse_encoded link encoded) with
    ⟨parsedPack, result, devices⟩
  rw [result] at isPack
  cases isPack
  have type : (Pc.parseDevice stod (packDeviceJson nowMs dev)).type = .relay :=
    (parseDevice_type stod nowMs dev).trans (congrArg typeOf shape)
  have points : Pc.toTelemetryPoints pack =
      Pc.relayPoints pack (Pc.parseDevice stod (packDeviceJson nowMs dev)) := by
    rw [Pc.toTelemetryPoints, devices]
    simp [telemetryPackSingleForSlot, Pc.devicePoints, type]
  rw [points] at built
  rcases Ui.shows_shownChannels _ _ type built with ⟨count, shows⟩
  rcases Ui.sendRelayCommand_states shows command with ⟨some, states, sameCommand, wanted⟩
  refine ⟨data.node, states, sameCommand, ?_⟩
  intro index small
  rw [wanted index (by omega), Ui.channelOn, parseDevice_relayStates stod nowMs shape,
    getLsbD_and_one]
  by_cases first : index = 0
  · subst first
    simp [some]
  · simp [first]

/-- The forwarded command holds the states of the request. -/
theorem handleCommand_states {node : Ui.DeviceNode} {states : List Bool} {payload : Json}
    (forwarded : forwardedJson (Pc.handleCommand ⟨databaseOpen, portConnected, clock.toInt⟩
      (Ui.relayCommandJson cmdId timestamp node (Pc.relayKey channel) value states) cmdId) =
        some payload) :
    payload.Wire Json.maxDepth ∧ states ≠ [] ∧ exists members,
      payload.lookup "payload" = some (.obj members) ∧
        members.lookup "states" = some (.arr (states.map .bool)) := by
  cases handled : Pc.handleCommand ⟨databaseOpen, portConnected, clock.toInt⟩
      (Ui.relayCommandJson cmdId timestamp node (Pc.relayKey channel) value states) cmdId with
  | refused | aborted =>
      rw [handled] at forwarded
      cases forwarded
  | publish topic published pending =>
      rw [handled] at forwarded
      cases forwarded
      have accepted := Pc.handleCommand_accepted handled
      rw [if_pos (show Pc.commandNameFrom (Ui.relayCommandJson cmdId timestamp node
        (Pc.relayKey channel) value states) = "set_relay" from rfl)] at accepted
      rcases Pc.forwardSetRelay_publish accepted with ⟨-, listed, flags, member, nonempty, -, rfl⟩
      cases (show some (states.map Json.bool) = some listed from member)
      refine ⟨?_, fun empty => nonempty (congrArg (List.map Json.bool) empty), _, rfl, rfl⟩
      apply Pc.wire_setRelayJson 28 _ _ _ _ _ (Pc.isInt_linuxDataSeqFrom _)
        (Pc.isInt_requestSlot _ _) (Pc.isInt_deviceIdFrom _)
      intro state inside
      rcases List.mem_map.mp inside with ⟨flag, -, rfl⟩
      exact Json.wire_bool 28 flag

theorem requestedMask_states {root : Json} {members : List (String × Json)} {states : List Bool}
    (nested : root.lookup "payload" = some (.obj members))
    (listed : members.lookup "states" = some (.arr (states.map .bool))) (nonempty : states ≠ []) :
    requestedMask (commandEffectiveRoot root) = some (relayMask (states.map .bool)) := by
  have member : (commandEffectiveRoot root).lookup "states" = some (.arr (states.map .bool)) := by
    rw [lookup_commandEffectiveRoot root nested (by decide), if_neg (by decide), listed]
  rw [requestedMask, member]
  cases states with
  | nil => exact (nonempty rfl).elim
  | cons first states => rfl

/-- The mask that is written: the old one with its other channels off. -/
theorem relayWrite_mask {relayStates : BitVec 16} {channelCount : Int32}
    (shape : dev.reading = .relay relayStates channelCount) (some : 1 ≤ channel)
    (few : channel ≤ 16) {mask : BitVec 16}
    (written : relayWrite link stod seq nowMs slot dev pcNow key cmdId timestamp databaseOpen
      portConnected clock channel value = Option.some mask) :
    mask = replaceBit (relayStates &&& 1) (channel - 1) value := by
  rcases Option.bind_eq_some_iff.mp written with ⟨command, sent, afterCommand⟩
  rcases Option.bind_eq_some_iff.mp afterCommand with ⟨payload, forwarded, afterPayload⟩
  rcases Option.bind_eq_some_iff.mp afterPayload with ⟨received, parsed, requested⟩
  rcases relayCommand_states link stod seq nowMs slot dev pcNow key cmdId timestamp channel value
    shape sent with ⟨node, states, rfl, wanted⟩
  rcases handleCommand_states cmdId timestamp databaseOpen portConnected clock channel value
    forwarded with ⟨wire, nonempty, members, nested, listed⟩
  have same : received = payload :=
    Option.some.inj (parsed.symm.trans (link.board_reads payload wire))
  subst same
  have asked := requestedMask_states nested listed nonempty
  rw [Option.some.inj (requested.symm.trans asked)]
  apply BitVec.eq_of_getLsbD_eq
  intro position small
  have flag : JsonC.getBoolean ((states.map Json.bool).getD position .null) =
      states.getD position false := by
    by_cases bound : position < states.length <;> simp [bound, JsonC.getBoolean]
  have bit : position = channel - 1 ↔ position + 1 = channel := by omega
  rw [getLsbD_relayMask _ small, getLsbD_replaceBit _ _ _ small, flag, wanted position small]
  simp only [bit]

/-- A forwarded command is always carried out. -/
theorem relayWrite_of_forwarded {relayStates : BitVec 16} {channelCount : Int32}
    (shape : dev.reading = .relay relayStates channelCount) {command payload : Json}
    (sent : relayCommand link stod seq nowMs slot dev pcNow key cmdId timestamp channel value =
      some command)
    (forwarded : forwardedJson (Pc.handleCommand ⟨databaseOpen, portConnected, clock.toInt⟩
      command cmdId) = some payload) :
    exists mask, relayWrite link stod seq nowMs slot dev pcNow key cmdId timestamp databaseOpen
      portConnected clock channel value = some mask := by
  rcases relayCommand_states link stod seq nowMs slot dev pcNow key cmdId timestamp channel value
    shape sent with ⟨node, states, rfl, -⟩
  rcases handleCommand_states cmdId timestamp databaseOpen portConnected clock channel value
    forwarded with ⟨wire, nonempty, members, nested, listed⟩
  refine ⟨relayMask (states.map .bool), ?_⟩
  have asked := requestedMask_states nested listed nonempty
  simp only [relayWrite, sent, Option.bind_eq_bind, Option.bind_some, forwarded,
    link.board_reads payload wire, asked]

/-- The other channels keep their states exactly when those beyond the first
one are off. -/
theorem relay_isolation_iff {relayStates : BitVec 16} {channelCount : Int32}
    (shape : dev.reading = .relay relayStates channelCount) (some : 1 ≤ channel)
    (few : channel ≤ 16) {mask : BitVec 16}
    (written : relayWrite link stod seq nowMs slot dev pcNow key cmdId timestamp databaseOpen
      portConnected clock channel value = Option.some mask) :
    mask = replaceBit relayStates (channel - 1) value ↔
      forall bit, 1 ≤ bit -> bit < 16 -> bit ≠ channel - 1 -> relayStates.getLsbD bit = false := by
  rw [relayWrite_mask link stod seq nowMs slot dev pcNow key cmdId timestamp databaseOpen
    portConnected clock channel value shape some few written]
  constructor
  · intro same bit beyond small other
    have bits := congrArg (fun mask => mask.getLsbD bit) same
    simp only [getLsbD_replaceBit _ _ _ small, if_neg other, getLsbD_and_one] at bits
    rw [← bits, decide_eq_false (by omega), Bool.and_false]
  · intro off
    apply BitVec.eq_of_getLsbD_eq
    intro bit small
    rw [getLsbD_replaceBit _ _ _ small, getLsbD_replaceBit _ _ _ small, getLsbD_and_one]
    by_cases switched : bit = channel - 1
    · rw [if_pos switched, if_pos switched]
    · rw [if_neg switched, if_neg switched]
      by_cases first : bit = 0
      · simp [first]
      · rw [off bit (by omega) small switched, Bool.false_and]

end Chain

/-- A relay with four channels. -/
def relayDevice (relayStates : BitVec 16) : DeviceData :=
  ⟨3, "relay", true, "", .relay relayStates 4⟩

theorem relayDevice_encoded {relayStates : BitVec 16} (some : relayStates = 1 ∨ relayStates = 2) :
    telemetryPackToJson JsonC.jsonText 0 4096
        (telemetryPackSingleForSlot 0 0 0 (relayDevice relayStates)) =
      Option.some (JsonC.jsonText.print (telemetryPackJson 0
        (telemetryPackSingleForSlot 0 0 0 (relayDevice relayStates))) ++ "\n") := by
  have fits : textBytes (JsonC.jsonText.print (telemetryPackJson 0
      (telemetryPackSingleForSlot 0 0 0 (relayDevice relayStates)))) + 2 ≤ 4096 := by
    rcases some with rfl | rfl <;>
      simp [relayDevice, telemetryPackSingleForSlot, fillSlotSite, fillDefaultSite,
        defaultGatewayId, telemetryPackJson, siteToJson, packDeviceJson, readingMembers,
        devicePoints, channelCountOf, defaultDeviceName, deviceTypeToStr, jsonInt, Json.memberIf,
        JsonC.jsonText, JsonText.codec, JsonText.print, JsonText.valueText, Json.maxDepth,
        JsonText.sequenceText, JsonText.memberText, JsonText.stringText, JsonText.escape,
        JsonText.intText, JsonText.natText, JsonText.signed, textBytes, byteLength] <;>
      decide +kernel
  rw [telemetryPackToJson]
  exact if_pos fits

/-- Switching on the second channel of the relay whose first one is on, or the
first channel of the relay whose second one is on. -/
theorem relayDevice_written {relayStates : BitVec 16} {channel : Nat}
    (some : relayStates = 1 ∧ channel = 2 ∨ relayStates = 2 ∧ channel = 1) : exists mask,
    relayWrite Exchange.jsonText (fun _ => none) 0 0 0 (relayDevice relayStates) 0
      "factory_001/area_001/gateway_001/port_001/3" "CMD1" 1 false false 0 channel true =
        Option.some mask := by
  have encoded := relayDevice_encoded (some.imp And.left And.left)
  have goesOn : ((relayCommand Exchange.jsonText (fun _ => none) 0 0 0 (relayDevice relayStates) 0
      "factory_001/area_001/gateway_001/port_001/3" "CMD1" 1 channel true).bind fun command =>
        forwardedJson (Pc.handleCommand ⟨false, false, (0 : Int64).toInt⟩ command "CMD1")).isSome := by
    unfold relayCommand
    rw [show Exchange.jsonText.board = JsonC.jsonText from rfl, encoded]
    unfold Pc.parseJson
    simp only [Option.bind_eq_bind, Option.bind_some]
    rw [parse_encoded Exchange.jsonText encoded]
    rcases some with ⟨rfl, rfl⟩ | ⟨rfl, rfl⟩ <;> decide +kernel
  rcases Option.isSome_iff_exists.mp goesOn with ⟨payload, found⟩
  rcases Option.bind_eq_some_iff.mp found with ⟨command, sent, forwarded⟩
  exact relayWrite_of_forwarded _ _ _ _ _ _ _ _ _ _ _ _ _ _ _ rfl sent forwarded

/-- With only the first channel on, switching the second one keeps it. -/
theorem relay_isolation_second_channel : exists mask,
    relayWrite Exchange.jsonText (fun _ => none) 0 0 0 (relayDevice 1) 0
        "factory_001/area_001/gateway_001/port_001/3" "CMD1" 1 false false 0 2 true = some mask ∧
      mask = replaceBit 1 1 true := by
  rcases relayDevice_written (Or.inl ⟨rfl, rfl⟩) with ⟨mask, written⟩
  refine ⟨mask, written, ?_⟩
  apply (relay_isolation_iff Exchange.jsonText (fun _ => none) 0 0 0 (relayDevice 1) 0
    "factory_001/area_001/gateway_001/port_001/3" "CMD1" 1 false false 0 2 true rfl (by decide)
    (by decide) written).mpr
  intro bit beyond _ _
  have off : bit ≠ 0 := by omega
  simp [BitVec.getLsbD_one, off]

/-- With only the second channel on, switching the first one turns it off. -/
theorem relay_isolation_first_channel : exists mask,
    relayWrite Exchange.jsonText (fun _ => none) 0 0 0 (relayDevice 2) 0
        "factory_001/area_001/gateway_001/port_001/3" "CMD1" 1 false false 0 1 true = some mask ∧
      mask ≠ replaceBit 2 0 true := by
  rcases relayDevice_written (Or.inr ⟨rfl, rfl⟩) with ⟨mask, written⟩
  refine ⟨mask, written, ?_⟩
  rw [relayWrite_mask _ _ _ _ _ _ _ _ _ _ _ _ _ _ _ rfl (by decide) (by decide) written]
  decide

end Link
end Imx6Gateway
