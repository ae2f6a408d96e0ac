import Imx6Gateway.Board.DeviceData
import Imx6Gateway.Board.JsonC
import Imx6Gateway.Board.MqttTopic

namespace Imx6Gateway
namespace Board

open Library

/-!
# Answers to commands

`data_ack.c`: the messages in which the board reports the end of a command.
Each function puts its members into an object, some of them more than once,
and publishes it either on the topic of the gateway or on that of a port.  The
copy for the local user interface is left out, and so are the answers to the
commands that only that interface can give.
-/

/-- A threshold as a `float`; `none` is an infinite or undefined one. -/
abbrev Limit : Type := Option Single

/-- `point_threshold_config_t` as it is read from a request. -/
structure RequestedPoint where
  enableAlarm : Bool
  alarmLow : Option Limit
  alarmHigh : Option Limit
deriving DecidableEq

/-- `sensor_threshold_config_t` as it is read from a request. -/
structure RequestedThresholds where
  thresholdEnabled : Bool
  temperature : RequestedPoint
  humidity : RequestedPoint
deriving DecidableEq

/-- Every limit of the point is a number. -/
def RequestedPoint.Finite (point : RequestedPoint) : Prop :=
  point.alarmLow ≠ some none ∧ point.alarmHigh ≠ some none

def RequestedThresholds.Finite (config : RequestedThresholds) : Prop :=
  config.temperature.Finite ∧ config.humidity.Finite

instance requestedThresholdsFinite (config : RequestedThresholds) : Decidable config.Finite :=
  inferInstanceAs (Decidable ((_ ∧ _) ∧ _ ∧ _))

/-- What the functions read besides their arguments: the identifier of the
command that is being processed, and the clock. -/
structure AckContext where
  cmdId : String
  nowMs : Int64
deriving DecidableEq

def setCurrentCmdId (cmdId : String) : String :=
  copyText 128 cmdId

def ackCodeFromReason (reason : String) : Int32 :=
  if reason = "" then 0
  else if reason = "invalid_request" ∨ reason = "invalid_argument" then -1
  else if reason = "config_write_failed" then -4
  else if reason = "mqtt_disconnected" ∨ reason = "mqtt_not_connected" then -5
  else if reason = "offline_cache_flush_disabled" then -8
  else 1

def ackMessageFromReason (reason : String) : String :=
  (([("invalid_request", "invalid request"), ("unknown_command", "unknown command"),
    ("invalid_argument", "invalid argument"), ("port_not_found", "port not found"),
    ("slave_address_conflict", "slave address already exists"),
    ("unsupported_device_type", "unsupported device type"),
    ("port_already_connected", "port already connected"), ("open_failed", "port open failed"),
    ("open_port_failed", "port open failed"), ("not_connected", "not connected"),
    ("relay_not_connected", "relay not connected"), ("port_not_connected", "port not connected"),
    ("invalid_poll_interval", "invalid poll interval"),
    ("device_exists", "device already exists"), ("device_not_found", "device not found"),
    ("modbus_write_failed", "modbus write failed"),
    ("config_write_failed", "config write failed")] : List (String × String)).lookup reason).getD reason

/-- `data_ack_add_identity`; a negative slot adds no port. -/
def ackIdentity (cmd : String) (slot deviceId : Int32) : List (String × Json) :=
  [("gatewayId", .str defaultGatewayId), ("gateway_id", .str defaultGatewayId),
    ("cmdType", .str cmd), ("cmd", .str cmd), ("command", .str cmd), ("commandType", .str cmd)] ++
  (if 0 ≤ slot.toInt then
    [("portId", .str (portIdFromSlot slot.toInt)), ("port_id", .str (portIdFromSlot slot.toInt))]
  else []) ++
  if 0 < deviceId.toInt then
    [("deviceId", jsonInt deviceId), ("device_id", jsonInt deviceId), ("slave_id", jsonInt deviceId)]
  else []

section Acks

variable (context : AckContext) (seq : UInt32) (cmd : String) (ok : Bool) (reason message : String)

/-- The members after the type. -/
def ackBody : List (String × Json) :=
  Json.memberIf (context.cmdId ≠ "") "cmd_id" (.str context.cmdId) ++
    ([("seq", .int seq.toNat), ("boardSeq", .int seq.toNat), ("cmd", .str cmd),
      ("command", .str cmd), ("commandType", .str cmd), ("cmdType", .str cmd),
      ("stage", .str "done"), ("status", .str (if ok then "success" else "failed")),
      ("ok", .bool ok), ("code", jsonInt (if ok then 0 else ackCodeFromReason reason)),
      ("reason", .str reason), ("message", .str message),
      ("timestampMs", .int context.nowMs.toInt)] ++ ackIdentity cmd (-1) 0)

/-- `data_ack_add_common`, and all of `data_ack_send`. -/
def ackCommon : List (String × Json) :=
  ("type", .str "ack") :: ackBody context seq cmd ok reason message

/-- A message with its topic.  `finite` says whether every number in it is
one; if not, its text is no JSON. -/
structure BoardAck where
  topic : String
  json : Json
  finite : Bool

def gatewayUpTopic : String :=
  "gateway/" ++ defaultGatewayId ++ "/up"

def portUpTopic (slot : Int32) : String :=
  "gateway/" ++ defaultGatewayId ++ "/" ++ portIdFromSlot slot.toInt ++ "/up"

/-- `data_ack_send` publishes on the topic of the gateway. -/
def ackSend : BoardAck where
  topic := gatewayUpTopic
  json := .obj (Json.filled (ackCommon context seq cmd ok reason message))
  finite := true

/-- The common part of the three functions below, with
`data_ack_publish_port`.  The details are put in last. -/
def portAck (slot deviceId : Int32) (details : List (String × Json)) (finite : Bool) : BoardAck where
  topic := portUpTopic slot
  json := .obj (Json.filled (ackCommon context seq cmd ok reason message ++
    (ackIdentity cmd slot deviceId ++ details)))
  finite := finite

def deviceDetails (slot slaveId : Int32) (deviceType : String) : List (String × Json) :=
  [("slot", jsonInt slot), ("slave_id", jsonInt slaveId), ("deviceId", jsonInt slaveId),
    ("deviceType", .str deviceType), ("device_type", .str deviceType)]

def ackSendDeviceResult (slot slaveId : Int32) (deviceType : String) (pollIntervalMs : Int32) :
    BoardAck :=
  portAck context seq cmd ok reason message slot slaveId
    (deviceDetails slot slaveId deviceType ++
      (Json.memberIf (0 < pollIntervalMs.toInt) "pollIntervalMs" (jsonInt pollIntervalMs) ++
        Json.memberIf (0 < pollIntervalMs.toInt) "poll_interval_ms" (jsonInt pollIntervalMs))) true

def ackSendRelayResult (slot slaveId deviceId : Int32) (states : BitVec 16) : BoardAck :=
  portAck context seq cmd ok reason message slot
    (if 0 < deviceId.toInt then deviceId else slaveId)
    [("slot", jsonInt slot), ("slave_id", jsonInt slaveId), ("deviceId", jsonInt slaveId),
      ("device_id", jsonInt deviceId),
      ("states", .arr ((List.range 4).map fun bit => .bool (states.getLsbD bit)))] true

/-- A limit that is not set is null; one that is no number is left to the
mark `finite`. -/
def limitJson : Option Limit -> Json
  | some (some value) => jsonSingle value
  | _ => .null

def pointJson (point : RequestedPoint) : Json :=
  .obj [("enable_alarm", .bool point.enableAlarm), ("alarm_low", limitJson point.alarmLow),
    ("alarm_high", limitJson point.alarmHigh)]

def thresholdDetails (config : RequestedThresholds) : List (String × Json) :=
  [("threshold_enabled", .bool config.thresholdEnabled),
    ("thresholdEnabled", .bool config.thresholdEnabled),
    ("thresholds", .obj [("temperature", pointJson config.temperature),
      ("humidity", pointJson config.humidity)])]

def ackSendThresholdResult (slot slaveId : Int32) (deviceType : String)
    (config : RequestedThresholds) : BoardAck :=
  portAck context seq cmd ok reason message slot slaveId
    (deviceDetails slot slaveId deviceType ++ thresholdDetails config) config.Finite

/-! ## The members of an answer -/

/-- The members that say whose answer it is and how the command ended. -/
def ackKeys : List String :=
  ["type", "cmd_id", "cmd", "stage", "ok", "status", "gatewayId", "portId", "port_id", "site"]

/-- Details leave these members alone, and their values can be printed. -/
structure Details (details : List (String × Json)) : Prop where
  keys : forall member, member ∈ details -> member.1 ∉ ackKeys
  values : forall member, member ∈ details -> member.2.Wire 30

variable {context seq cmd ok reason message}

theorem lookup_portAck {slot deviceId : Int32} {details : List (String × Json)} {finite : Bool}
    {key : String} (important : key ∈ ackKeys) (plain : Details details) :
    (portAck context seq cmd ok reason message slot deviceId details finite).json.lookup key =
      ((ackIdentity cmd slot deviceId).reverse.lookup key).or
        ((ackCommon context seq cmd ok reason message).reverse.lookup key) := by
  have absent : details.reverse.lookup key = none := by
    rw [List.lookup_eq_none_iff]
    intro member inside
    have other := plain.keys member (List.mem_reverse.mp inside)
    rw [bne_iff_ne]
    rintro rfl
    exact other important
  rw [portAck, Json.lookup_obj, Json.lookup_filled, List.reverse_append, List.reverse_append,
    List.lookup_append, List.lookup_append, absent, Option.none_or]

/-- A member that is put in after the type and can be printed. -/
def Follows (member : String × Json) : Prop :=
  member.1 ≠ "type" ∧ member.2.Wire 30

theorem follows_ackIdentity (slot deviceId : Int32) :
    forall member, member ∈ ackIdentity cmd slot deviceId -> Follows member := by
  intro member inside
  unfold ackIdentity at inside
  rcases List.mem_append.mp inside with fixed | device
  · rcases List.mem_append.mp fixed with always | port
    · simp only [List.mem_cons, List.not_mem_nil, or_false] at always
      rcases always with rfl | rfl | rfl | rfl | rfl | rfl <;>
        exact ⟨by simp, Json.wire_str 30 _⟩
    · split at port
      · rcases List.mem_pair.mp port with rfl | rfl <;> exact ⟨by simp, Json.wire_str 30 _⟩
      · cases port
  · split at device
    · simp only [List.mem_cons, List.not_mem_nil, or_false] at device
      rcases device with rfl | rfl | rfl <;> exact ⟨by simp, wire_jsonInt 30 deviceId⟩
    · cases device

theorem follows_ackBody :
    forall member, member ∈ ackBody context seq cmd ok reason message -> Follows member := by
  have seqBound := seq.toNat_lt
  have low := context.nowMs.le_toInt
  have high := context.nowMs.toInt_lt
  intro member inside
  unfold ackBody at inside
  rcases List.mem_append.mp inside with identified | rest
  · unfold Json.memberIf at identified
    split at identified
    · rw [List.mem_singleton.mp identified]
      exact ⟨by simp, Json.wire_str 30 _⟩
    · cases identified
  · rcases List.mem_append.mp rest with fixed | identity
    · have wireSeq : (Json.int seq.toNat).Wire 30 := by
        rw [Json.wire_int]
        omega
      have wireTime : (Json.int context.nowMs.toInt).Wire 30 := by
        rw [Json.wire_int]
        omega
      simp only [List.mem_cons, List.not_mem_nil, or_false] at fixed
      rcases fixed with rfl | rfl | rfl | rfl | rfl | rfl | rfl | rfl | rfl | rfl | rfl | rfl | rfl <;>
        exact ⟨by simp, by simp [wireSeq, wireTime]⟩
    · exact follows_ackIdentity (-1) 0 member identity

variable {slot deviceId : Int32} {details : List (String × Json)} {finite : Bool}

/-- The members of an answer after its type. -/
theorem follows_portAck (plain : Details details) :
    forall member, member ∈ ackBody context seq cmd ok reason message ++
      (ackIdentity cmd slot deviceId ++ details) -> Follows member := by
  intro member inside
  rcases List.mem_append.mp inside with common | rest
  · exact follows_ackBody member common
  · rcases List.mem_append.mp rest with identity | detail
    · exact follows_ackIdentity slot deviceId member identity
    · refine ⟨?_, plain.values member detail⟩
      rintro same
      apply plain.keys member detail
      rw [same]
      decide

theorem wire_portAck (plain : Details details) :
    (portAck context seq cmd ok reason message slot deviceId details finite).json.Wire
      Json.maxDepth := by
  apply Json.wire_filled
  intro member inside
  rcases List.mem_cons.mp inside with first | rest
  · rw [first]
    exact Json.wire_str 30 _
  · exact (follows_portAck plain member rest).2

/-- The type is the first member. -/
theorem portAck_front (plain : Details details) : exists rest,
    (portAck context seq cmd ok reason message slot deviceId details finite).json =
      .obj (("type", .str "ack") :: rest) := by
  rcases Json.filled_cons ("type", .str "ack") _
    (fun member inside => (follows_portAck plain member inside).1) with ⟨rest, shape⟩
  exact ⟨rest, congrArg Json.obj shape⟩

/-- What a reader finds in an answer for a port. -/
structure AnswerMembers (json : Json) (cmdId cmd : String) (ok : Bool) (slot : Int32) : Prop where
  cmdIdMember : json.lookup "cmd_id" = some (.str cmdId)
  cmdMember : json.lookup "cmd" = some (.str cmd)
  stageMember : json.lookup "stage" = some (.str "done")
  okMember : json.lookup "ok" = some (.bool ok)
  statusMember : json.lookup "status" = some (.str (if ok then "success" else "failed"))
  gatewayMember : json.lookup "gatewayId" = some (.str defaultGatewayId)
  portMember : json.lookup "portId" =
    if 0 ≤ slot.toInt then some (.str (portIdFromSlot slot.toInt)) else none
  portAlias : json.lookup "port_id" =
    if 0 ≤ slot.toInt then some (.str (portIdFromSlot slot.toInt)) else none
  siteMember : json.lookup "site" = none

theorem answerMembers_portAck (plain : Details details) (identified : context.cmdId ≠ "") :
    AnswerMembers (portAck context seq cmd ok reason message slot deviceId details finite).json
      context.cmdId cmd ok slot := by
  constructor <;> rw [lookup_portAck (by decide) plain] <;>
    by_cases port : 0 ≤ slot.toInt <;> by_cases device : 0 < deviceId.toInt <;>
    simp [ackIdentity, ackCommon, ackBody, Json.memberIf, identified, List.lookup_cons, port, device]

/-- Every answer says whether the command succeeded. -/
theorem ackSend_ok :
    (ackSend context seq cmd ok reason message).json.lookup "ok" = some (.bool ok) := by
  rw [ackSend, Json.lookup_obj, Json.lookup_filled]
  by_cases identified : context.cmdId = "" <;>
    simp [ackIdentity, ackCommon, ackBody, Json.memberIf, identified, List.lookup_cons]

end Acks
end Board
end Imx6Gateway
