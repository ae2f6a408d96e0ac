import Imx6Gateway.Library.Separator
import Mathlib.Data.List.Basic

namespace Imx6Gateway
namespace Pc

open Library

/-!
# Topics of Pc_data

The topics Pc_data publishes commands and acknowledgements on, and the ones
it takes messages of the boards from.  `mqttPublish` is the check that the
MQTT client makes on every message; what it lets through is sent as it is.
-/

def defaultUpTopic (gatewayId : String) : String :=
  if gatewayId = "" then "" else "gateway/" ++ gatewayId ++ "/up"

def defaultCmdTopic (gatewayId : String) : String :=
  if gatewayId = "" then "" else "cmd/" ++ gatewayId

def makeGatewayCommandTopic (gatewayId : String) : String :=
  if gatewayId = "" then "" else "cmd/" ++ gatewayId

def makePortCommandTopic (gatewayId portId : String) : String :=
  if gatewayId = "" ∨ portId = "" then "" else "cmd/" ++ gatewayId ++ "/" ++ portId

def isGatewayCommand (commandType : String) : Bool :=
  ["delete_gateway", "disconnect_gateway", "request_gateway_status", "get_config",
    "request_config_snapshot", "discover"].contains commandType

def commandTopicFor (commandType gatewayId portId : String) : String :=
  if isGatewayCommand commandType then makeGatewayCommandTopic gatewayId
  else makePortCommandTopic gatewayId portId

def isValidPublishTopic (topic : String) : Bool :=
  topic ≠ "" ∧ '#' ∉ topic.toList ∧ '+' ∉ topic.toList

/-- A message given to the broker. -/
structure Publication where
  topic : String
  payload : String
deriving DecidableEq, Repr

/-- `MqttClient::publish` with a connected client. -/
def mqttPublish (topic payload : String) : Option Publication :=
  if topic = "" ∨ '#' ∈ topic.toList ∨ '+' ∈ topic.toList then none
  else some ⟨topic, payload⟩

theorem mqttPublish_eq_some {topic payload : String} {publication : Publication}
    (published : mqttPublish topic payload = some publication) :
    publication = ⟨topic, payload⟩ := by
  unfold mqttPublish at published
  split at published
  · cases published
  · injection published with same
    exact same.symm

/-- The gateway and the port of a topic `gateway/<gateway>/<port>/up`. -/
def parsePortUpTopic (topic : String) : Option (String × String) :=
  match between "gateway/".toList "/up".toList topic.toList with
  | none => none
  | some body =>
      match cutAt '/' body with
      | none => none
      | some (gateway, port) =>
          if gateway = [] ∨ port = [] ∨ '/' ∈ port then none
          else some (String.ofList gateway, String.ofList port)

/-- The gateway of a topic `gateway/<gateway>/up`, when it is the expected one. -/
def isValidGatewayUpTopic (topic gatewayId : String) : Bool :=
  match between "gateway/".toList "/up".toList topic.toList with
  | none => false
  | some body => body ≠ [] ∧ '/' ∉ body ∧ String.ofList body = gatewayId

theorem parsePortUpTopic_port {gatewayId portId : String} (gateway : gatewayId ≠ "")
    (gatewayLevel : '/' ∉ gatewayId.toList) (port : portId ≠ "")
    (portLevel : '/' ∉ portId.toList) :
    parsePortUpTopic ("gateway/" ++ gatewayId ++ "/" ++ portId ++ "/up") =
      some (gatewayId, portId) := by
  have levels : ("gateway/" ++ gatewayId ++ "/" ++ portId ++ "/up").toList =
      "gateway/".toList ++ (gatewayId.toList ++ '/' :: portId.toList) ++ "/up".toList := by
    simp only [String.toList_append, List.append_assoc]
    rfl
  have body : between "gateway/".toList "/up".toList
      ("gateway/".toList ++ (gatewayId.toList ++ '/' :: portId.toList) ++ "/up".toList) =
      some (gatewayId.toList ++ '/' :: portId.toList) := by
    apply between_append
    exact List.append_ne_nil_of_right_ne_nil _ (List.cons_ne_nil _ _)
  unfold parsePortUpTopic
  simp only [levels, body, cutAt_append _ gatewayLevel, String.toList_eq_nil_iff, gateway, port,
    portLevel, or_self, if_false, String.ofList_toList]

/-- The topic of the gateway itself names no port. -/
theorem parsePortUpTopic_gateway {gatewayId : String} (gateway : gatewayId ≠ "")
    (gatewayLevel : '/' ∉ gatewayId.toList) :
    parsePortUpTopic ("gateway/" ++ gatewayId ++ "/up") = none := by
  have levels : ("gateway/" ++ gatewayId ++ "/up").toList =
      "gateway/".toList ++ gatewayId.toList ++ "/up".toList := by
    simp only [String.toList_append]
  have body : between "gateway/".toList "/up".toList
      ("gateway/".toList ++ gatewayId.toList ++ "/up".toList) = some gatewayId.toList := by
    apply between_append
    exact fun empty => gateway (String.toList_eq_nil_iff.mp empty)
  have uncut : cutAt '/' gatewayId.toList = none := (cutAt_eq_none_iff '/' _).mpr gatewayLevel
  unfold parsePortUpTopic
  simp only [levels, body, uncut]

end Pc
end Imx6Gateway
