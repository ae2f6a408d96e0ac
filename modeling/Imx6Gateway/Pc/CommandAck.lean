import Imx6Gateway.Pc.AlarmEvent
import Imx6Gateway.Pc.CommandForward

namespace Imx6Gateway
namespace Pc

open Library

/-!
# Answers of the board in Pc_data

The branch of `MqttMessageHandler::handle` for answers to commands, up to the
answer to the user interface.  The log of the database and the follow-up of a
removed or added device are left out.
-/

/-- `findPendingCommand`, and what `takePendingCommand` finds. -/
def findPendingCommand (commands : List PendingCommandTarget) (commandId : String) :
    Option PendingCommandTarget :=
  if commandId = "" then none else commands.find? fun target => target.commandId = commandId

/-- What `takePendingCommand` leaves. -/
def withoutPendingCommand (commands : List PendingCommandTarget) (commandId : String) :
    List PendingCommandTarget :=
  commands.filter fun target => target.commandId ≠ commandId

def isFinalBusinessSuccess (root : Json) : Bool :=
  getJsonString root "stage" = "done" && getJsonBool root "ok" false &&
    getJsonString root "status" = "success"

def isAnswer (messageType : String) : Bool :=
  ["ack", "command_ack", "command_result"].contains messageType

/-- The end of a command, as it is reported to the user interface. -/
structure Completion where
  target : PendingCommandTarget
  success : Bool
  reason : String
  message : String
deriving DecidableEq

/-- The answer names another gateway or port than the topic. -/
def identityMismatch (root : Json) (topicGatewayId topicPortId : String) : Bool :=
  (extractGatewayIdCompat root ≠ "" ∧ extractGatewayIdCompat root ≠ topicGatewayId) ∨
    (extractPortIdCompat root ≠ "" ∧ extractPortIdCompat root ≠ topicPortId)

/-- The completion of a waiting command by a final answer. -/
def complete (root : Json) (target : PendingCommandTarget) : Completion :=
  let named := getJsonStringAny root ["cmd", "commandType", "command"]
  let commandType := if named = "" then target.commandType else named
  let message := getJsonString root "message"
  if isFinalBusinessSuccess root ∧ commandType = "remove_device" ∧
      target.commandType ≠ "remove_device" then
    ⟨target, false, "device_not_found",
      if message = "" then "remove_device ack target not found in command_log" else message⟩
  else ⟨target, isFinalBusinessSuccess root, getJsonString root "reason", message⟩

/-- The commands that still wait, and the command that is completed. -/
def handleAck (pc : JsonCodec) (commands : List PendingCommandTarget) (topic payload : String) :
    List PendingCommandTarget × Option Completion :=
  if !isAnswer (extractJsonStringValue payload "type") then (commands, none)
  else
    match parsePortUpTopic topic, pc.parse payload with
    | some (topicGatewayId, topicPortId), some (.obj members) =>
        let root := Json.obj members
        let ackCmdId := getJsonStringAny root ["cmd_id", "cmdId", "commandId"]
        if identityMismatch root topicGatewayId topicPortId ∨ ackCmdId = "" then (commands, none)
        else
          match findPendingCommand commands ackCmdId with
          | none => (commands, none)
          | some target =>
              if getJsonString root "stage" = "done" then
                (withoutPendingCommand commands ackCmdId, some (complete root target))
              else (commands, none)
    | _, _ => (commands, none)

end Pc
end Imx6Gateway
