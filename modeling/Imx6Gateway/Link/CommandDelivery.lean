import Imx6Gateway.Board.MqttTopic
import Imx6Gateway.Pc.CommandForward
import Imx6Gateway.Pc.RegisterAck

namespace Imx6Gateway
namespace Link

open Library Board Pc

/-!
# Messages from Pc_data to the board

Every message Pc_data sends towards a board is put on a topic with the
gateway, or on one with the gateway and a port.  The board takes only the
second form, and copies the payload into a fixed buffer.  The theorem says for
each message exactly whether it arrives whole.
-/

/-- A message Pc_data may send towards a board, with what it is made of. -/
inductive Outgoing where
  | command (context : CommandContext) (root : Json) (cmdId : String)
  | syncConfig (pending : SyncGatewayPending)
  | snapshotRequest (nowMs : Int) (gatewayId : String)
  | registerAck (nowMs : Int) (ack : RegisterAck)

namespace Outgoing

def publish (pc : JsonCodec) : Outgoing -> Option Publication
  | command context root cmdId => publishCommand pc context root cmdId
  | syncConfig pending => publishGetConfig pc pending
  | snapshotRequest nowMs gatewayId => publishConfigSnapshotRequest pc nowMs gatewayId
  | registerAck nowMs ack => publishRegisterAck pc nowMs ack

def gatewayId : Outgoing -> String
  | command _ root _ => requestGatewayId root
  | syncConfig pending => pending.gatewayId
  | snapshotRequest _ gatewayId => gatewayId
  | registerAck _ ack => ack.gatewayId

/-- The port a message is addressed to. -/
def port : Outgoing -> Option String
  | command _ root _ =>
      if isGatewayCommand (commandNameFrom root) then none else some (requestPortId root)
  | syncConfig _ | snapshotRequest _ _ => none
  | registerAck _ ack => if ack.portId = "" then none else some ack.portId

/-- The topic that follows from the addressee. -/
def topic (message : Outgoing) : String :=
  match message.port with
  | none => "cmd/" ++ message.gatewayId
  | some port => "cmd/" ++ message.gatewayId ++ "/" ++ port

/-- The message goes to a port the board can name. -/
def ToKnownPort (message : Outgoing) : Prop :=
  exists port, message.port = some port ∧ TopicLevel port

end Outgoing

theorem forwardThreshold_topic {context : CommandContext} {root payload : Json}
    {cmdId gatewayId portId commandType topic : String} {pending : PendingCommandTarget}
    (published : forwardThreshold context root cmdId gatewayId portId commandType =
      .publish topic payload pending) : topic = makePortCommandTopic gatewayId portId := by
  simp only [forwardThreshold] at published
  split at published
  · cases published
  · split at published
    · cases published
    · split at published
      · cases published
      · have rest := getD_portRefusal published
        injection rest with same
        exact same.symm

theorem forwardDevice_topic {context : CommandContext} {root payload : Json}
    {cmdId gatewayId portId commandType topic : String} {pending : PendingCommandTarget}
    (published : forwardDevice context root cmdId gatewayId portId commandType =
      .publish topic payload pending) : topic = makePortCommandTopic gatewayId portId := by
  simp only [forwardDevice] at published
  split at published
  · cases published
  · have rest := getD_portRefusal published
    split at rest
    · cases rest
    · injection rest with same
      exact same.symm

theorem forwardGateway_topic {context : CommandContext} {root payload : Json}
    {cmdId gatewayId portId commandType topic : String} {pending : PendingCommandTarget}
    (published : forwardGateway context root cmdId gatewayId portId commandType =
      .publish topic payload pending) : topic = commandTopicFor commandType gatewayId portId := by
  simp only [forwardGateway] at published
  split at published
  · cases published
  · injection published with same
    exact same.symm

/-- The branches that build a port topic themselves agree with the dispatcher. -/
theorem commandTopicFor_port {commandType : String} (gatewayId portId : String)
    (port : isGatewayCommand commandType = false) :
    commandTopicFor commandType gatewayId portId = makePortCommandTopic gatewayId portId := by
  rw [commandTopicFor, port]
  rfl

theorem handleCommand_topic {context : CommandContext} {root payload : Json}
    {cmdId topic : String} {pending : PendingCommandTarget}
    (published : handleCommand context root cmdId = .publish topic payload pending) :
    topic = commandTopicFor (commandNameFrom root) (requestGatewayId root) (requestPortId root) ∧
      requestGatewayId root ≠ "" ∧
      (isGatewayCommand (commandNameFrom root) = false -> requestPortId root ≠ "") := by
  unfold handleCommand at published
  by_cases refused : cmdId = "" ∨ requestGatewayId root = "" ∨
      (!isGatewayCommand (commandNameFrom root)) = true ∧ requestPortId root = ""
  · simp only [if_pos refused] at published
    split at published <;> cases published
  · simp only [if_neg refused] at published
    have named : requestGatewayId root ≠ "" := fun empty => refused (.inr (.inl empty))
    have addressed : isGatewayCommand (commandNameFrom root) = false -> requestPortId root ≠ "" := by
      intro port empty
      apply refused
      rw [port]
      exact .inr (.inr ⟨rfl, empty⟩)
    refine ⟨?_, named, addressed⟩
    split at published
    · cases published
    · split at published
      · rename_i relay
        rw [(forwardSetRelay_publish published).1, commandTopicFor_port _ _ (by rw [relay]; decide)]
      · split at published
        · rename_i threshold
          rw [forwardThreshold_topic published]
          apply (commandTopicFor_port _ _ _).symm
          rcases threshold with same | same <;> rw [same] <;> decide
        · split at published
          · rename_i device
            rw [forwardDevice_topic published]
            apply (commandTopicFor_port _ _ _).symm
            rcases device with same | same <;> rw [same] <;> decide
          · exact forwardGateway_topic published

namespace Outgoing

theorem publish_topic {pc : JsonCodec} {message : Outgoing} {publication : Publication}
    (published : message.publish pc = some publication) : publication.topic = message.topic := by
  cases message with
  | command context root cmdId =>
      simp only [publish, publishCommand] at published
      split at published
      · rename_i topic payload pending handled
        have topics := handleCommand_topic handled
        rw [mqttPublish_eq_some published]
        simp only [Outgoing.topic, port, gatewayId]
        rw [topics.1, commandTopicFor]
        by_cases toGateway : isGatewayCommand (commandNameFrom root) = true
        · simp only [toGateway, if_true, makeGatewayCommandTopic, topics.2.1, if_false]
        · have toPort := Bool.eq_false_iff.mpr toGateway
          simp only [toPort, Bool.false_eq_true, if_false, makePortCommandTopic, topics.2.1,
            topics.2.2 toPort, or_self]
      · cases published
  | syncConfig pending =>
      simp only [publish, publishGetConfig] at published
      split at published
      · cases published
      · rename_i named
        rw [mqttPublish_eq_some published]
        simp only [makeGatewayCommandTopic] at named ⊢
        split at named
        · exact absurd rfl named
        · rename_i nonempty
          rw [if_neg nonempty]
          rfl
  | snapshotRequest nowMs gatewayId =>
      simp only [publish, publishConfigSnapshotRequest] at published
      split at published
      · cases published
      · rename_i nonempty
        split at published
        · rw [mqttPublish_eq_some published, defaultCmdTopic, if_neg nonempty]
          rfl
        · cases published
  | registerAck nowMs ack =>
      simp only [publish, publishRegisterAck] at published
      split at published
      · cases published
      · rename_i nonempty
        split at published
        · rw [mqttPublish_eq_some published]
          simp only [Outgoing.topic, port, registerAckTopic, Outgoing.gatewayId]
          by_cases bare : ack.portId = ""
          · simp only [bare, if_true, defaultCmdTopic, nonempty, if_false]
          · simp only [bare, if_false, makePortCommandTopic, nonempty, or_self]
        · cases published

/-- A message to the board's own gateway arrives whole exactly when it is
addressed to a port the board can name and its text fits the buffer. -/
theorem delivered_iff (board : JsonC) (pc : JsonCodec) (message : Outgoing)
    (publication : Publication) (published : message.publish pc = some publication)
    (own : message.gatewayId = defaultGatewayId) :
    Delivered board publication.topic publication.payload ↔
      message.ToKnownPort ∧ textBytes publication.payload < mqttPayloadMax := by
  rw [publish_topic published, Outgoing.topic, ToKnownPort, own]
  cases port : message.port with
  | none =>
      constructor
      · intro delivered
        exact absurd delivered (delivered_gateway_topic board publication.payload)
      · rintro ⟨⟨_, impossible, _⟩, _⟩
        cases impossible
  | some portId =>
      simp only [Option.some.injEq, exists_eq_left']
      exact delivered_port_topic_iff board portId publication.payload

/-- The answer to a registration, with the port it speaks of. -/
def registrationAnswer (portId : String) : RegisterAck where
  cmd := if portId = "" then "gateway_register" else "port_register"
  seq := 1
  ok := true
  gatewayId := defaultGatewayId
  portId := portId
  configVersion := 0
  reason := ""
  message := ""
  retryable := false

def answerText (portId : String) : String :=
  (JsonText.codec false).print (buildRegisterAckJson (registrationAnswer portId) 0)

theorem answerText_fits : textBytes (answerText "port_001") < mqttPayloadMax := by
  simp [answerText, registrationAnswer, buildRegisterAckJson, Json.memberIf, defaultGatewayId,
    JsonText.codec, JsonText.print, JsonText.valueText, Json.maxDepth, JsonText.sequenceText,
    JsonText.memberText, JsonText.stringText, JsonText.escape, JsonText.intText, JsonText.natText,
    JsonText.signed, textBytes, byteLength]
  decide +kernel

theorem portAnswer_delivered :
    Delivered JsonC.jsonText "cmd/gateway_001/port_001" (answerText "port_001") :=
  (delivered_iff JsonC.jsonText (JsonText.codec false)
    (.registerAck 0 (registrationAnswer "port_001"))
    ⟨"cmd/gateway_001/port_001", answerText "port_001"⟩
    (publishRegisterAck_eq _ 0 (by decide) (by decide)) rfl).mpr
    ⟨⟨"port_001", rfl, by decide⟩, answerText_fits⟩

/-- The answer to the registration of the gateway itself ends nowhere. -/
theorem gatewayAnswer_not_delivered :
    (Outgoing.registerAck 0 (registrationAnswer "")).publish (JsonText.codec false) =
      some ⟨"cmd/gateway_001", answerText ""⟩ ∧
    (Outgoing.registerAck 0 (registrationAnswer "")).gatewayId = defaultGatewayId ∧
    mqttMessageHandler JsonC.jsonText "cmd/gateway_001" (answerText "") = .unknownTopic ∧
    ¬ Delivered JsonC.jsonText "cmd/gateway_001" (answerText "") := by
  refine ⟨publishRegisterAck_eq _ 0 (by decide) (by decide), rfl, ?_, ?_⟩
  · have none : mqttParsePortCommandTopic tokenSize tokenSize "cmd/gateway_001" = none :=
      mqttParsePortCommandTopic_gateway
    rw [mqttMessageHandler, none]
  · exact delivered_gateway_topic JsonC.jsonText (answerText "")

end Outgoing
end Link
end Imx6Gateway
