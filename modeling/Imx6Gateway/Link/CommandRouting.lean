import Imx6Gateway.Board.PortCall
import Imx6Gateway.Pc.PortCommand

namespace Imx6Gateway
namespace Link

open Library Board

/-!
# The slot of a command

A command for a device is addressed to a port, but the board's handlers only
look at the slot that Pc_data has written next to it.  Pc_data takes a slot
the request names before it asks the port, and reads the digits of the port's
identifier as its number.  The theorem says exactly when the board resolves
the forwarded command to the slot that owns the port.

The message is followed as a tree: the printer and the parser between the two
programs agree on every tree the board can read (`Exchange`).
-/

/-- The board resolves the message to the slot, and calls the port manager for
no other one. -/
def RoutedTo (getFloat : Json -> Limit) (library : JsonC) (payload : Json) (slot : Int32) : Prop :=
  messageSlot library payload = some slot ∧
    forall call, messageCall getFloat library payload = some call -> call.slot = slot

/-- The request names the slot that owns its port, or leaves the slot to a port
identifier that ends in the port's number. -/
def NamesOwner (root : Json) (owner : Int32) : Prop :=
  Pc.namedSlot root = owner.toInt ∨
    Pc.namedSlot root < 0 ∧ (Pc.requestPortId root = "port_001" ∨ Pc.requestPortId root = "port_002")

theorem isInt_namedSlot (root : Json) : Pc.IsInt (Pc.namedSlot root) := by
  unfold Pc.namedSlot
  split
  · apply Pc.isInt_getJsonInt
    apply Pc.isInt_getJsonInt
    unfold Pc.IsInt
    decide
  · exact Pc.isInt_requestSlot _ _

theorem isInt_slotFromPortId {portId : String} {fallback slot : Int} (isInt : Pc.IsInt fallback)
    (resolved : Pc.slotFromPortId portId fallback = some slot) : Pc.IsInt slot := by
  unfold Pc.slotFromPortId at resolved
  unfold Pc.IsInt at *
  simp only at resolved
  split_ifs at resolved <;> cases resolved <;> omega

theorem getInt_int {value : Int} (isInt : Pc.IsInt value) :
    (getInt (.int value)).toInt = value := by
  unfold Pc.IsInt at isInt
  have whole : JsonC.getInt64 (.int value) = value := by
    change JsonC.clampInt64 value = value
    unfold JsonC.clampInt64 JsonC.int64Min JsonC.int64Max
    omega
  have clamped : max (-2 ^ 31) (min (2 ^ 31 - 1) value) = value := by
    omega
  rw [getInt, whole, clamped]
  exact Int32.toInt_ofInt_of_le isInt.1 isInt.2

theorem messageCommand_portCommand (library : JsonC) {payload : Json} {cmd : String} {slot : Int}
    {body : List (String × Json)} (command : Pc.PortCommand payload cmd slot body) :
    messageCommand library payload = some cmd := by
  have type : memberText library payload "type" = some "command" := by
    rw [memberText, command.isCommand]
    rfl
  have named : (getObjectAny payload commandKeys).bind library.getString = some cmd := by
    have first : getObjectAny payload commandKeys = some (.str cmd) := by
      rw [getObjectAny, commandKeys, List.findSome?_cons, command.named]
    rw [first]
    rfl
  rw [messageCommand, type, named]
  rfl

/-- The handlers read the inner payload of the frame. -/
theorem lookup_portCommand {payload : Json} {cmd : String} {slot : Int}
    {body : List (String × Json)} (command : Pc.PortCommand payload cmd slot body) {key : String}
    (notCopied : key ∉ copyKeys) :
    (commandEffectiveRoot payload).lookup key = body.lookup key :=
  lookup_commandEffectiveRoot_untargeted payload command.nested command.untargeted notCopied

/-- The slot of the frame is the one the handlers resolve. -/
theorem messageSlot_portCommand (library : JsonC) {payload : Json} {cmd : String} {slot : Int}
    {body : List (String × Json)} (command : Pc.PortCommand payload cmd slot body)
    (device : cmd ∈ deviceCommands) :
    messageSlot library payload = some (getInt (.int slot)) := by
  have untargeted : targetSlot library (commandEffectiveRoot payload) = none := by
    rw [targetSlot, lookup_portCommand command (by decide), command.bodyUntargeted]
  have slotHere : forall absent, slotMember (commandEffectiveRoot payload) absent =
      getInt (.int slot) := by
    intro absent
    rw [slotMember, lookup_portCommand command (by decide), command.slotMember]
    rfl
  rw [messageSlot, messageCommand_portCommand library command, Option.bind_some, commandSlot]
  split_ifs with add remove other
  · rw [addDeviceSlot, untargeted]
    exact congrArg some (slotHere 0)
  · rw [removeDeviceSlot, untargeted]
    exact congrArg some (slotHere 0)
  · exact congrArg some (slotHere 0)
  · exact absurd (List.contains_iff_mem.mpr device) other

theorem slotFromPortId_owner {portId : String} {owner : Int32} {fallback slot : Int}
    (owned : slotFromPortId (some portId) = some owner)
    (resolved : Pc.slotFromPortId portId fallback = some slot) :
    slot = owner.toInt ↔
      fallback = owner.toInt ∨ fallback < 0 ∧ (portId = "port_001" ∨ portId = "port_002") := by
  unfold slotFromPortId at owned
  simp only [Option.some.injEq] at owned
  by_cases named : 0 ≤ fallback
  · rw [Pc.slotFromPortId, if_pos named] at resolved
    cases resolved
    constructor
    · exact .inl
    · rintro (same | ⟨negative, -⟩)
      · exact same
      · omega
  · have negative : fallback < 0 := by omega
    have notFirst : fallback ≠ 0 := by omega
    have notSecond : fallback ≠ 1 := by omega
    rw [Pc.slotFromPortId, if_neg named] at resolved
    split_ifs at owned with first second
    · cases owned
      rcases first with rfl | rfl
      · cases (show some (0 : Int) = some slot from resolved)
        simp [negative]
      · cases (show some (4850 : Int) = some slot from resolved)
        simp [notFirst]
    · cases owned
      rcases second with rfl | rfl
      · cases (show some (1 : Int) = some slot from resolved)
        simp [negative]
      · cases (show some (4851 : Int) = some slot from resolved)
        simp [notSecond]

/-- A forwarded device command is routed to its port exactly when the request
names the owner of the port or leaves it to a numbered port identifier. -/
theorem routed_iff (getFloat : Json -> Limit) (library : JsonC) {context : Pc.CommandContext}
    {root payload : Json} {cmdId topic : String} {pending : Pc.PendingCommandTarget}
    (published : Pc.handleCommand context root cmdId = .publish topic payload pending)
    (device : Pc.commandNameFrom root ∈ Pc.portCommands) {owner : Int32}
    (owned : slotFromPortId (some (Pc.requestPortId root)) = some owner) :
    RoutedTo getFloat library payload owner ↔ NamesOwner root owner := by
  rcases Pc.handleCommand_portCommand published device with ⟨slot, body, resolved, command⟩
  have isInt : Pc.IsInt slot := isInt_slotFromPortId (isInt_namedSlot root) resolved
  have received : messageSlot library payload = some (getInt (.int slot)) := by
    apply messageSlot_portCommand library command
    unfold Pc.forwardedCommand
    split
    · decide
    · exact device
  rw [NamesOwner, ← slotFromPortId_owner owned resolved]
  constructor
  · rintro ⟨routed, -⟩
    rw [received, Option.some.injEq] at routed
    rw [← routed, getInt_int isInt]
  · intro same
    have routed : getInt (.int slot) = owner := by
      apply Int32.toInt_inj.mp
      rw [getInt_int isInt, same]
    rw [routed] at received
    refine ⟨received, ?_⟩
    intro call called
    have resolvedSlot := messageCall_slot getFloat library payload called
    exact Option.some.inj (resolvedSlot.symm.trans received)

/-- A request to remove device 3 from a port. -/
def removeRequest (portId : String) (more : List (String × Json)) : Json :=
  .obj ([("type", .str "command"), ("cmdType", .str "remove_device"), ("cmd_id", .str "c1"),
    ("seq", .int 7), ("gatewayId", .str defaultGatewayId), ("portId", .str portId),
    ("deviceId", .int 3)] ++ more)

/-- The request is forwarded and its port belongs to the owner, but the board
resolves the message to the slot. -/
def Misrouted (root : Json) (owner slot : Int32) : Prop :=
  exists topic payload pending,
    Pc.handleCommand ⟨false, false, 0⟩ root "c1" = .publish topic payload pending ∧
      slotFromPortId (some (Pc.requestPortId root)) = some owner ∧
      messageSlot JsonC.jsonText payload = some slot ∧
      ¬ RoutedTo (fun _ => none) JsonC.jsonText payload owner

theorem removeRequest_routed : exists topic payload pending,
    Pc.handleCommand ⟨false, false, 0⟩ (removeRequest "port_002" []) "c1" =
        .publish topic payload pending ∧
      RoutedTo (fun _ => none) JsonC.jsonText payload 1 := by
  have forwarded : exists topic payload pending,
      Pc.handleCommand ⟨false, false, 0⟩ (removeRequest "port_002" []) "c1" =
        .publish topic payload pending := ⟨_, _, _, rfl⟩
  rcases forwarded with ⟨topic, payload, pending, published⟩
  refine ⟨topic, payload, pending, published, ?_⟩
  apply (routed_iff (fun _ => none) JsonC.jsonText published (by decide) (by decide)).mpr
  exact .inr (by decide)

/-- The port RS485-1 is taken for slot 4850, and a request for port_001 that
names slot 1 is carried out on port_002. -/
theorem removeRequest_misrouted :
    Misrouted (removeRequest "RS485-1" []) 0 4850 ∧
      Misrouted (removeRequest "port_001" [("slot", .int 1)]) 0 1 := by
  constructor
  · refine ⟨_, _, _, rfl, by decide, by decide +kernel, ?_⟩
    rintro ⟨routed, -⟩
    exact absurd routed (by decide +kernel)
  · refine ⟨_, _, _, rfl, by decide, by decide +kernel, ?_⟩
    rintro ⟨routed, -⟩
    exact absurd routed (by decide +kernel)

end Link
end Imx6Gateway
