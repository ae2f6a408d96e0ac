import Imx6Gateway.Board.JsonC
import Imx6Gateway.Board.Protocol
import Imx6Gateway.Library.Separator

namespace Imx6Gateway
namespace Board

open Library

/-!
# Topics of the board

`mqtt_wrapper.c` builds the topics the board publishes on and takes the
topics it receives apart.  The builders write into a buffer of the caller and
fail when it is too small; the parsers copy each level into a buffer of its
own.  `mqttMessageHandler` is the callback of the MQTT client: what it hands
on is its result.
-/

def mqttPayloadMax : Nat := 4096

/-- Size of the topic buffers of every caller. -/
def topicSize : Nat := 128

/-- Size of the two token buffers of the message callback. -/
def tokenSize : Nat := 64

def portIdFromSlot (slot : Int) : String :=
  if slot = 0 then "port_001" else "port_002"

/-- A `snprintf` whose result is checked against the buffer. -/
def printTopic (bufferSize : Nat) (topic : String) : Option String :=
  if textBytes topic < bufferSize then some topic else none

def mqttMakeGatewayUpTopic (bufferSize : Nat) : Option String :=
  printTopic bufferSize ("gateway/" ++ defaultGatewayId ++ "/up")

def mqttMakePortUpTopic (bufferSize : Nat) (portId : String) : Option String :=
  if portId = "" then none
  else printTopic bufferSize ("gateway/" ++ defaultGatewayId ++ "/" ++ portId ++ "/up")

def mqttMakePortUpTopicForSlot (bufferSize : Nat) (slot : Int) : Option String :=
  mqttMakePortUpTopic bufferSize (portIdFromSlot slot)

/-- `copy_token`: a token is copied as a whole or not at all. -/
def copyToken (size : Nat) (token : List Char) : Option String :=
  if byteLength token < size then some (String.ofList token) else none

/-- Exactly two levels below `cmd`, neither of them empty. -/
def mqttParsePortCommandTopic (gatewaySize portSize : Nat) (topic : String) :
    Option (String × String) :=
  match afterFront "cmd/".toList topic.toList with
  | none => none
  | some rest =>
      match cutAt '/' rest with
      | none => none
      | some (gateway, port) =>
          if gateway = [] ∨ port = [] ∨ '/' ∈ port then none
          else do
            let gatewayId ← copyToken gatewaySize gateway
            let portId ← copyToken portSize port
            some (gatewayId, portId)

/-- Exactly one level below `cmd`.  The callback does not use it. -/
def mqttParseGatewayCommandTopic (gatewaySize : Nat) (topic : String) : Option String :=
  match afterFront "cmd/".toList topic.toList with
  | none => none
  | some gateway => if '/' ∈ gateway ∨ gateway = [] then none else copyToken gatewaySize gateway

/-- A gateway and a port, followed by `up` and nothing else. -/
def mqttParsePortUpTopic (gatewaySize portSize : Nat) (topic : String) :
    Option (String × String) :=
  match afterFront "gateway/".toList topic.toList with
  | none => none
  | some rest =>
      match cutAt '/' rest with
      | none => none
      | some (gateway, afterGateway) =>
          if gateway = [] then none
          else
            match cutAt '/' afterGateway with
            | none => none
            | some (port, afterPort) =>
                if port = [] ∨ afterPort ≠ "up".toList then none
                else do
                  let gatewayId ← copyToken gatewaySize gateway
                  let portId ← copyToken portSize port
                  some (gatewayId, portId)

def mqttPayloadIsAck (library : JsonC) (payload : String) : Bool :=
  match library.parse payload with
  | none => false
  | some root =>
      match root.lookup "type" with
      | none => false
      | some type => library.getString type = some "ack"

/-- What the callback does with a message: the text for
`data_config_sync_handle_ack_json`, and the text for
`data_command_process_message` if that is called as well. -/
inductive Received where
  | unknownTopic
  | taken (ackText : String) (command : Option String)
deriving DecidableEq

def mqttMessageHandler (library : JsonC) (topic payload : String) : Received :=
  match mqttParsePortCommandTopic tokenSize tokenSize topic with
  | none => .unknownTopic
  | some (topicGateway, _) =>
      if topicGateway = defaultGatewayId then
        let command := copyText mqttPayloadMax payload
        .taken command (if mqttPayloadIsAck library command then none else some command)
      else .unknownTopic

/-- The message reaches the board as it was sent. -/
def Delivered (library : JsonC) (topic payload : String) : Prop :=
  mqttMessageHandler library topic payload =
    .taken payload (if mqttPayloadIsAck library payload then none else some payload)

instance deliveredDecidable (library : JsonC) (topic payload : String) :
    Decidable (Delivered library topic payload) :=
  inferInstanceAs (Decidable (_ = _))

/-! ## What the callback takes -/

/-- A level of a topic that the callback can copy. -/
def TopicLevel (level : String) : Prop :=
  level ≠ "" ∧ '/' ∉ level.toList ∧ textBytes level < tokenSize

instance topicLevelDecidable (level : String) : Decidable (TopicLevel level) :=
  inferInstanceAs (Decidable (_ ∧ _))

theorem copyToken_toList (size : Nat) (token : String) :
    copyToken size token.toList = if textBytes token < size then some token else none := by
  rw [copyToken, String.ofList_toList, textBytes]

theorem copyToken_eq_some {size : Nat} {token : List Char} {text : String}
    (copied : copyToken size token = some text) :
    text = String.ofList token ∧ textBytes text < size := by
  unfold copyToken at copied
  split at copied
  case isTrue fits =>
    cases copied
    rw [textBytes, String.toList_ofList]
    exact ⟨rfl, fits⟩
  case isFalse _ => cases copied

theorem defaultGatewayId_level : TopicLevel defaultGatewayId := by decide

/-- A topic with the board's gateway and one more level. -/
theorem mqttParsePortCommandTopic_port (portId : String) :
    mqttParsePortCommandTopic tokenSize tokenSize ("cmd/" ++ defaultGatewayId ++ "/" ++ portId) =
      if TopicLevel portId then some (defaultGatewayId, portId) else none := by
  have gateway := defaultGatewayId_level
  have levels : ("cmd/" ++ defaultGatewayId ++ "/" ++ portId).toList =
      "cmd/".toList ++ (defaultGatewayId.toList ++ '/' :: portId.toList) := by
    simp only [String.toList_append, List.append_assoc]
    rfl
  have cut : cutAt '/' (defaultGatewayId.toList ++ '/' :: portId.toList) =
      some (defaultGatewayId.toList, portId.toList) := cutAt_append _ gateway.2.1
  unfold mqttParsePortCommandTopic
  simp only [levels, afterFront_append, cut, String.toList_eq_nil_iff, gateway.1, false_or,
    copyToken_toList, if_pos gateway.2.2]
  by_cases refused : portId = "" ∨ '/' ∈ portId.toList
  · have notLevel : ¬ TopicLevel portId := fun level =>
      refused.elim level.1 (fun slash => level.2.1 slash)
    rw [if_pos refused, if_neg notLevel]
  · rw [if_neg refused]
    rw [not_or] at refused
    by_cases fits : textBytes portId < tokenSize
    · rw [if_pos fits, if_pos ⟨refused.1, refused.2, fits⟩]
      rfl
    · rw [if_neg fits, if_neg (fun level => fits level.2.2)]
      rfl

/-- A topic that ends with the gateway has no level for a port. -/
theorem mqttParsePortCommandTopic_gateway :
    mqttParsePortCommandTopic tokenSize tokenSize ("cmd/" ++ defaultGatewayId) = none := by
  have absent : cutAt '/' defaultGatewayId.toList = none :=
    (cutAt_eq_none_iff '/' _).mpr defaultGatewayId_level.2.1
  unfold mqttParsePortCommandTopic
  rw [String.toList_append, afterFront_append]
  simp only [absent]

/-- The payload buffer leaves room for a terminator. -/
theorem copyText_payload_eq_iff (payload : String) :
    copyText mqttPayloadMax payload = payload ↔ textBytes payload < mqttPayloadMax := by
  constructor
  · intro whole
    have bounded := textBytes_clip_le (mqttPayloadMax - 1) payload
    rw [show clip (mqttPayloadMax - 1) payload = payload from whole] at bounded
    exact Nat.lt_of_le_pred (by decide) bounded
  · exact copyText_of_fits

theorem delivered_gateway_topic (library : JsonC) (payload : String) :
    ¬ Delivered library ("cmd/" ++ defaultGatewayId) payload := by
  rw [Delivered, mqttMessageHandler, mqttParsePortCommandTopic_gateway]
  intro impossible
  cases impossible

theorem delivered_port_topic_iff (library : JsonC) (portId payload : String) :
    Delivered library ("cmd/" ++ defaultGatewayId ++ "/" ++ portId) payload ↔
      TopicLevel portId ∧ textBytes payload < mqttPayloadMax := by
  rw [Delivered, mqttMessageHandler, mqttParsePortCommandTopic_port]
  by_cases level : TopicLevel portId
  · rw [if_pos level]
    simp only [if_true]
    constructor
    · intro whole
      injection whole with text
      exact ⟨level, (copyText_payload_eq_iff payload).mp text⟩
    · intro fits
      rw [copyText_of_fits fits.2]
  · rw [if_neg level]
    constructor
    · intro impossible
      cases impossible
    · intro accepted
      exact absurd accepted.1 level

end Board
end Imx6Gateway
