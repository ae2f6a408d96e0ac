import Imx6Gateway.Pc.CommandTimeout

namespace Imx6Gateway
namespace Pc

open Library

/-!
# One request for a command

The command branch runs from its first check to its answer.  Each of its four
parts logs, publishes, remembers and answers by itself; here the branch runs
alone, so what it leaves behind belongs to the one request.
-/

/-- A state of a relay that rapidjson reads as a `bool` or as an `int`. -/
def IsRelayState : Json -> Prop
  | .bool _ => True
  | .int value => IsInt value
  | _ => False

/-- The states of a `set_relay` can be streamed. -/
def RelayStatesRead (root : Json) : Prop :=
  commandNameFrom root = "set_relay" ->
    forall states, memberArray (payloadObjectOrRoot root) "states" = some states ->
      forall state, state ∈ states -> IsRelayState state

/-- `std::stoi` reads the digits of the port. -/
def PortDigitsFit (root : Json) : Prop :=
  Nat.ofDigitChars 10 ((requestPortId root).toList.filter Char.isDigit) 0 < 2 ^ 31

theorem relayStateFlag_isSome {state : Json} (read : IsRelayState state) :
    (relayStateFlag state).isSome = true := by
  cases state with
  | bool value => rfl
  | int value =>
      rw [relayStateFlag, if_pos (show -2 ^ 31 ≤ value ∧ value < 2 ^ 31 from read),
        Option.isSome_some]
  | null => cases read
  | real value => cases read
  | str text => cases read
  | arr items => cases read
  | obj members => cases read

theorem mapM_relayStateFlag_ne_none {states : List Json}
    (read : forall state, state ∈ states -> IsRelayState state) :
    states.mapM relayStateFlag ≠ none := by
  induction states with
  | nil => exact Option.some_ne_none []
  | cons state states ih =>
      have rest := ih fun other inside => read other (List.mem_cons_of_mem state inside)
      rcases Option.isSome_iff_exists.mp (relayStateFlag_isSome (read state List.mem_cons_self))
        with ⟨flag, here⟩
      rcases Option.ne_none_iff_exists'.mp rest with ⟨flags, later⟩
      rw [List.mapM_cons, here, later]
      exact Option.some_ne_none _

theorem slotFromPortId_ne_none {portId : String} (fallback : Int)
    (fits : Nat.ofDigitChars 10 (portId.toList.filter Char.isDigit) 0 < 2 ^ 31) :
    slotFromPortId portId fallback ≠ none := by
  unfold slotFromPortId
  by_cases given : 0 ≤ fallback
  · rw [if_pos given]
    exact Option.some_ne_none fallback
  · by_cases blank : portId.toList.filter Char.isDigit = []
    · rw [if_neg given, if_pos blank]
      exact Option.some_ne_none 0
    · rw [if_neg given, if_neg blank, if_pos fits]
      exact Option.some_ne_none _

theorem portRefusal_ne_aborted {context : CommandContext} {rest : Forward}
    (safe : rest ≠ .aborted) : (portRefusal context).getD rest ≠ .aborted := by
  unfold portRefusal
  split
  · exact fun same => by cases same
  · exact safe

/-- Nothing else can end the branch before its answer. -/
theorem handleCommand_ne_aborted {context : CommandContext} {root : Json} {cmdId : String}
    (states : RelayStatesRead root) (digits : PortDigitsFit root) :
    handleCommand context root cmdId ≠ .aborted := by
  have slot : forall fallback, slotFromPortId (requestPortId root) fallback ≠ none :=
    fun fallback => slotFromPortId_ne_none fallback digits
  unfold handleCommand
  dsimp only
  split_ifs with unsupported unnamed relay threshold device
  · exact fun same => by cases same
  · exact fun same => by cases same
  · unfold forwardSetRelay
    dsimp only
    split
    · exact fun same => by cases same
    · exact fun same => by cases same
    · rename_i items _ member
      split
      · exact fun same => by cases same
      · apply portRefusal_ne_aborted
        split
        · rename_i unread
          exact absurd unread (mapM_relayStateFlag_ne_none (states relay items member))
        · exact fun same => by cases same
  · unfold forwardThreshold
    dsimp only
    split
    · rename_i unread
      exact absurd unread (slot _)
    · split
      · exact fun same => by cases same
      · split
        · exact fun same => by cases same
        · exact portRefusal_ne_aborted fun same => by cases same
  · unfold forwardDevice
    dsimp only
    split
    · exact fun same => by cases same
    · apply portRefusal_ne_aborted
      split
      · rename_i unread
        exact absurd unread (slot _)
      · exact fun same => by cases same
  · unfold forwardGateway
    dsimp only
    split <;> exact fun same => by cases same

namespace CommandWorld

/-- The statements of the branch one after the other, from the text of the
message on.  A text that rapidjson refuses leaves a root that is no object. -/
def handleCommandMessage (pc : JsonCodec) (world : CommandWorld) (portConnected publishOk : Bool)
    (nowMs : Int) (message : String) : CommandWorld :=
  ((((world.request portConnected nowMs ((pc.parse message).getD .null)
    (extractJsonStringValue message "cmd_id")).continueIpc publishOk nowMs).continueIpc publishOk
      nowMs).continueIpc publishOk nowMs).continueIpc publishOk nowMs

/-- One message was published, its command is remembered, and the log says so. -/
def Sent (world next : CommandWorld) (cmdId : String) : Prop :=
  exists entry, next.published = world.published ++ [entry] ∧
    (next.pendingCommands.get cmdId).isSome = true ∧
    (world.databaseOpen = true ->
      (next.commandLog.get cmdId).map CommandLogRow.status = some "sent")

/-- The branch gave one answer, and the answer tells what happened. -/
def AnsweredOnce (world next : CommandWorld) (cmdId : String) : Prop :=
  exists commandType stage ok reason message,
    next.toUi = (world.sendMessage
      (.commandAck cmdId commandType stage ok reason message)).toUi ∧
    (stage = "sent" ↔ Sent world next cmdId) ∧
    (stage ≠ "sent" -> stage = "done" ∧ ok = false ∧ next.published = world.published ∧
      next.pendingCommands = world.pendingCommands)

theorem answered_done {world next : CommandWorld} {cmdId : String}
    (commandType reason message : String)
    (told : next.toUi = (world.sendMessage
      (.commandAck cmdId commandType "done" false reason message)).toUi)
    (published : next.published = world.published)
    (pending : next.pendingCommands = world.pendingCommands) : AnsweredOnce world next cmdId := by
  refine ⟨commandType, "done", false, reason, message, told, ?_, ?_⟩
  · refine iff_of_false (by decide) ?_
    rintro ⟨entry, grown, -⟩
    rw [published] at grown
    exact List.cons_ne_nil entry [] (List.self_eq_append_right.mp grown)
  · exact fun _ => ⟨rfl, rfl, published, pending⟩

theorem answered_sent {world next : CommandWorld} {cmdId : String}
    (commandType reason message : String)
    (told : next.toUi = (world.sendMessage
      (.commandAck cmdId commandType "sent" false reason message)).toUi)
    (sent : Sent world next cmdId) : AnsweredOnce world next cmdId :=
  ⟨commandType, "sent", false, reason, message, told, iff_of_true rfl sent,
    fun different => absurd rfl different⟩

theorem continueIpc_idle {world : CommandWorld} (idle : world.ipc = .idle) (publishOk : Bool)
    (nowMs : Int) : world.continueIpc publishOk nowMs = world := by
  rw [continueIpc, idle]

/-- The row that was created is the one that is updated. -/
theorem log_created_updated (world : CommandWorld) {commandId commandType status : String}
    (reason message : String) (isOpen : world.databaseOpen = true) (named : commandId ≠ "")
    (typed : commandType ≠ "") (stated : status ≠ "") :
    ((world.createCommandLog commandId commandType).updateCommandLogByCommandId commandId status
      reason message).commandLog.get commandId = some ⟨status, reason, message⟩ := by
  have created : (world.createCommandLog commandId commandType).commandLog.get commandId =
      some ⟨"pending", "", ""⟩ := by
    unfold createCommandLog
    dsimp only
    rw [if_neg (by simp [isOpen, named, typed]), Table.get_put, if_pos rfl]
  have stillOpen : (world.createCommandLog commandId commandType).databaseOpen = true := isOpen
  rw [log_update _ reason message stillOpen named stated, created, Option.map_some]

/-- Every request is answered once, and the answer says `sent` exactly if the
command is on its way and remembered. -/
theorem command_answered (pc : JsonCodec) (world : CommandWorld) (idle : world.ipc = .idle)
    (portConnected publishOk : Bool) (nowMs : Int) (message : String)
    (states : RelayStatesRead ((pc.parse message).getD .null))
    (digits : PortDigitsFit ((pc.parse message).getD .null)) :
    AnsweredOnce world (world.handleCommandMessage pc portConnected publishOk nowMs message)
      (extractJsonStringValue message "cmd_id") := by
  unfold handleCommandMessage
  generalize (pc.parse message).getD .null = root at states digits ⊢
  generalize extractJsonStringValue message "cmd_id" = cmdId
  have ends : handleCommand ⟨world.databaseOpen, portConnected, nowMs⟩ root cmdId ≠ .aborted :=
    handleCommand_ne_aborted states digits
  cases forwarded : handleCommand ⟨world.databaseOpen, portConnected, nowMs⟩ root cmdId with
  | aborted => exact absurd forwarded ends
  | refused reason text =>
      have requested : world.request portConnected nowMs root cmdId =
          { world with submitted := world.submitted ++ [cmdId] }.refuse cmdId
            (commandNameFrom root) reason text := by
        rw [request, idle, forwarded]
      have stays : ({ world with submitted := world.submitted ++ [cmdId] }.refuse cmdId
          (commandNameFrom root) reason text).ipc = .idle := idle
      rw [requested, continueIpc_idle stays, continueIpc_idle stays, continueIpc_idle stays,
        continueIpc_idle stays]
      exact answered_done (commandNameFrom root) reason text rfl rfl rfl
  | publish topic payload target =>
      rcases handleCommand_describes forwarded with ⟨describes, named, typed⟩
      have sameId : target.commandId = cmdId := describes.commandId
      have requested : world.request portConnected nowMs root cmdId =
          { world.createCommandLog target.commandId target.commandType with
            submitted := world.submitted ++ [cmdId]
            ipc := .logged topic target } := by
        rw [request, idle, forwarded]
      rw [requested]
      cases delivered : publishOk && isValidPublishTopic topic with
      | false =>
          simp only [continueIpc, delivered, Bool.false_eq_true, if_false]
          subst sameId
          exact answered_done target.commandType "mqtt_publish_failed" "MQTT publish failed" rfl
            rfl rfl
      | true =>
          simp only [continueIpc, delivered, if_true]
          subst sameId
          refine answered_sent target.commandType "" "command published to gateway" rfl ?_
          refine ⟨(topic, target), rfl, ?_, ?_⟩
          · unfold sendMessage rememberPendingCommand
            dsimp only
            rw [if_neg (not_or.mpr ⟨named, typed⟩), Table.get_put, if_pos rfl, Option.isSome_some]
          · intro isOpen
            have updated := log_created_updated world "" "command sent" isOpen named typed
              (show "sent" ≠ "" by decide)
            exact congrArg (Option.map CommandLogRow.status) updated

/-- Two relays of a device are set. -/
def relayRequest : Json :=
  .obj [("type", .str "command"), ("cmd", .str "set_relay"), ("cmd_id", .str "CMD2"),
    ("seq", .int 8), ("gatewayId", .str "gateway_001"), ("portId", .str "port_001"),
    ("slot", .int 0), ("slave_id", .int 3), ("states", .arr [.bool true, .int 0])]

theorem relayRequest_answered :
    AnsweredOnce (.start true true ∅)
      ((start true true ∅).handleCommandMessage (JsonText.codec false) true true 0
        ((JsonText.codec false).print relayRequest))
      (extractJsonStringValue ((JsonText.codec false).print relayRequest) "cmd_id") := by
  have parsed : (JsonText.codec false).parse ((JsonText.codec false).print relayRequest) =
      some relayRequest := (JsonText.codec false).parse_print relayRequest (by decide)
  apply command_answered
  · rfl
  · rw [parsed]
    intro _ states member state inside
    cases member
    rcases List.mem_pair.mp inside with rfl | rfl
    · exact trivial
    · exact ⟨by decide, by decide⟩
  · rw [parsed]
    exact (by decide +kernel : (1 : Nat) < 2 ^ 31)

end CommandWorld
end Pc
end Imx6Gateway
