import Imx6Gateway.Pc.JsonUtils
import Imx6Gateway.Pc.Topics

namespace Imx6Gateway
namespace Pc

open Library

/-!
# Answers and requests Pc_data sends by itself

The acknowledgement of a registration, the request for a configuration
snapshot, and the `get_config` of a configuration sync.  The first two are
published by `MqttMessageHandler.cpp`, the last one by
`IpcMessageHandler.cpp`.
-/

/-- The arguments of `publishRegisterAck`.  A count or device id of `-1` is
left out of the message. -/
structure RegisterAck where
  cmd : String
  seq : Int
  ok : Bool
  gatewayId : String
  portId : String
  configVersion : Int
  reason : String
  message : String
  retryable : Bool
  registeredDeviceCount : Int := -1
  registeredPointCount : Int := -1
  deviceId : Int := -1
deriving DecidableEq, Repr

/-- `buildRegisterAckJson` for the values `publishRegisterAck` passes on. -/
def buildRegisterAckJson (ack : RegisterAck) (nowMs : Int) : Json :=
  .obj <| List.flatten
    [[("type", .str "ack"), ("cmd", .str ack.cmd), ("seq", .int ack.seq), ("ok", .bool ack.ok),
      ("status", .str (if ack.ok then "success" else "failed")),
      ("gatewayId", .str ack.gatewayId)],
    Json.memberIf (ack.portId ≠ "") "portId" (.str ack.portId),
    Json.memberIf (0 < ack.deviceId) "deviceId" (.int ack.deviceId),
    Json.memberIf (0 < ack.configVersion) "configVersion" (.int ack.configVersion),
    [("reason", .str (if ack.ok then "saved" else ack.reason)),
      ("commandType", .str ack.cmd), ("cmdType", .str ack.cmd),
      ("message", .str (if ack.ok then "regsit save ok" else ack.message)),
      ("retryable", .bool (!ack.ok && ack.retryable))],
    Json.memberIf (0 ≤ ack.registeredDeviceCount) "registeredDeviceCount"
      (.int ack.registeredDeviceCount),
    Json.memberIf (0 ≤ ack.registeredPointCount) "registeredPointCount"
      (.int ack.registeredPointCount),
    [("timestampMs", .int nowMs)]]

/-- A missing port sends the answer to the gateway's own topic. -/
def registerAckTopic (ack : RegisterAck) : String :=
  if ack.portId = "" then defaultCmdTopic ack.gatewayId
  else makePortCommandTopic ack.gatewayId ack.portId

def publishRegisterAck (pc : JsonCodec) (nowMs : Int) (ack : RegisterAck) : Option Publication :=
  if ack.gatewayId = "" then none
  else if isValidPublishTopic (registerAckTopic ack) then
    mqttPublish (registerAckTopic ack) (pc.print (buildRegisterAckJson ack nowMs))
  else none

theorem publishRegisterAck_eq (pc : JsonCodec) (nowMs : Int) {ack : RegisterAck}
    (named : ack.gatewayId ≠ "") (valid : isValidPublishTopic (registerAckTopic ack) = true) :
    publishRegisterAck pc nowMs ack =
      some ⟨registerAckTopic ack, pc.print (buildRegisterAckJson ack nowMs)⟩ := by
  rw [publishRegisterAck, if_neg named, if_pos valid, mqttPublish]
  rw [isValidPublishTopic, decide_eq_true_iff] at valid
  rw [if_neg]
  rintro (empty | wildcard | wildcard)
  · exact valid.1 empty
  · exact valid.2.1 wildcard
  · exact valid.2.2 wildcard

def buildRequestConfigSnapshotJson (gatewayId : String) (nowMs : Int) : Json :=
  .obj [("type", .str "command"), ("cmd", .str "request_config_snapshot"), ("seq", .int nowMs),
    ("cmdType", .str "request_config_snapshot"), ("gatewayId", .str gatewayId),
    ("timestampMs", .int nowMs), ("target", .obj [("gatewayId", .str gatewayId)]),
    ("payload", .obj [("gatewayId", .str gatewayId)])]

def publishConfigSnapshotRequest (pc : JsonCodec) (nowMs : Int) (gatewayId : String) :
    Option Publication :=
  if gatewayId = "" then none
  else if isValidPublishTopic (defaultCmdTopic gatewayId) then
    mqttPublish (defaultCmdTopic gatewayId)
      (pc.print (buildRequestConfigSnapshotJson gatewayId nowMs))
  else none

/-- One device a user wants synchronised. -/
structure SyncSelectedDevice where
  portId : String
  deviceId : Int
deriving DecidableEq, Repr

structure SyncGatewayPending where
  seq : Int
  gatewayId : String
  devices : List SyncSelectedDevice
deriving DecidableEq, Repr

def buildGetConfigCommandJson (pending : SyncGatewayPending) : Json :=
  .obj [("type", .str "command"), ("cmd", .str "get_config"), ("seq", .int pending.seq),
    ("target", .obj [("gatewayId", .str pending.gatewayId),
      ("devices", .arr (pending.devices.map fun device =>
        .obj [("portId", .str device.portId), ("deviceId", .int device.deviceId)]))])]

/-- The publishing step of a configuration sync. -/
def publishGetConfig (pc : JsonCodec) (pending : SyncGatewayPending) : Option Publication :=
  if makeGatewayCommandTopic pending.gatewayId = "" then none
  else mqttPublish (makeGatewayCommandTopic pending.gatewayId)
    (pc.print (buildGetConfigCommandJson pending))

end Pc
end Imx6Gateway
