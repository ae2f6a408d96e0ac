import Imx6Gateway.Board.CommandAck

namespace Imx6Gateway
namespace Board

open Library

/-!
# Commands of the board

`data_command.c`: a command message is parsed, its payload is made the root
of what the handlers read, and the handler of the command answers it.  What
the port manager, the export of a snapshot and the publishing functions
return is the environment's choice (`CommandOutcomes`); what they do besides
is left out.  The commands that only the local user interface can give have
handlers of their own and are not modelled.
-/

/-- `json_object_get_int`. -/
def getInt (json : Json) : Int32 :=
  Int32.ofInt (max (-2 ^ 31) (min (2 ^ 31 - 1) (JsonC.getInt64 json)))

/-- `json_get_object_any`: the first key that is there. -/
def getObjectAny (object : Json) (keys : List String) : Option Json :=
  keys.findSome? fun key => object.lookup key

def jsonGetStringAny (library : JsonC) (object : Json) (keys : List String)
    (defaultValue : String) : String :=
  match (getObjectAny object keys).bind library.getString with
  | some value => if value = "" then defaultValue else value
  | none => defaultValue

def jsonGetIntAny (object : Json) (keys : List String) (defaultValue : Int32) : Int32 :=
  match getObjectAny object keys with
  | none | some .null => defaultValue
  | some value => getInt value

def jsonGetBoolAny (object : Json) (keys : List String) (defaultValue : Bool) : Bool :=
  match getObjectAny object keys with
  | none | some .null => defaultValue
  | some value => JsonC.getBoolean value

/-- What the functions behind the handlers return.  A failure of the port
manager has a reason. -/
structure CommandOutcomes where
  portManager : Except String Unit
  exported : Bool
  snapshotSent : DataSendCode
  latestSnapshot : DataSendCode

section Handlers

-- `json_object_get_double` with the conversion to `float`.
variable (getFloat : Json -> Limit)

def jsonGetDoubleAny (object : Json) (keys : List String) : Option Limit :=
  match getObjectAny object keys with
  | none | some .null => none
  | some value => some (getFloat value)

def noThreshold : RequestedPoint := ⟨false, none, none⟩

/-- A limit given by one of the short keys turns the alarm on. -/
def withHigh (point : RequestedPoint) : Option Limit -> RequestedPoint
  | some high => { point with enableAlarm := true, alarmHigh := some high }
  | none => point

/-- `parse_point_threshold`; a null leaves the point as it was. -/
def parsePointThreshold (object : Json) (point : RequestedPoint) : RequestedPoint :=
  match object with
  | .null => point
  | object =>
      { enableAlarm := ((getObjectAny object ["enable_alarm", "enableAlarm"]).map
          JsonC.getBoolean).getD false
        alarmLow := jsonGetDoubleAny getFloat object ["alarm_low", "alarmLow"]
        alarmHigh := jsonGetDoubleAny getFloat object ["alarm_high", "alarmHigh"] }

/-- The point of `thresholds`: first the short key, then the object. -/
def parseThresholdsPoint (thresholds : Json) (shortKeys : List String) (key : String)
    (point : RequestedPoint) : RequestedPoint :=
  parsePointThreshold getFloat ((thresholds.lookup key).getD .null)
    (withHigh point (jsonGetDoubleAny getFloat thresholds shortKeys))

def tempHighKeys : List String := ["temp_high", "tempHigh"]
def humiHighKeys : List String := ["humi_high", "humiHigh"]

/-- `parse_sensor_threshold_config`; `none` is the result 0. -/
def parseSensorThresholdConfig (root : Json) : Option RequestedThresholds :=
  let enable := getObjectAny root ["threshold_enabled", "thresholdEnabled"]
  let compat := (getObjectAny root ["threshold_config", "thresholdConfig"]).getD .null
  let named := (enable.map JsonC.getBoolean).getD false
  let enabled := if compat.isObj then jsonGetBoolAny compat ["enable"] named else named
  let tempHigh := (jsonGetDoubleAny getFloat root tempHighKeys).or
    (jsonGetDoubleAny getFloat compat tempHighKeys)
  let humiHigh := (jsonGetDoubleAny getFloat root humiHighKeys).or
    (jsonGetDoubleAny getFloat compat humiHighKeys)
  let temperature := withHigh noThreshold tempHigh
  let humidity := withHigh noThreshold humiHigh
  match (root.lookup "thresholds").or (compat.lookup "thresholds") with
  | some (.obj members) =>
      some ⟨enabled,
        parseThresholdsPoint getFloat (.obj members) tempHighKeys "temperature" temperature,
        parseThresholdsPoint getFloat (.obj members) humiHighKeys "humidity" humidity⟩
  | _ =>
      if enable.isSome || compat.isObj || tempHigh.isSome || humiHigh.isSome then
        some ⟨enabled, temperature, humidity⟩
      else none

variable (library : JsonC) (outcomes : CommandOutcomes) (context : AckContext) (seq : UInt32)
  (root : Json) (cmd : String)

/-- `slot_from_port_id`; `none` is the result -1. -/
def slotFromPortId (portId : Option String) : Option Int32 :=
  if portId = some "port_001" ∨ portId = some "RS485-1" then some 0
  else if portId = some "port_002" ∨ portId = some "RS485-2" then some 1
  else none

/-- A text member of an object; a null is the null pointer. -/
def memberText (object : Json) (key : String) : Option String :=
  match object.lookup key with
  | some value => library.getString value
  | none => some ""

/-- The target is for another gateway. -/
def foreignGateway (gatewayId : Option String) : Bool :=
  match gatewayId with
  | some gatewayId => gatewayId ≠ "" ∧ gatewayId ≠ defaultGatewayId
  | none => false

/-- The slot a request's target names, or why it is refused.  Without a
target there is no result. -/
def targetSlot : Option (Except String Int32) :=
  match root.lookup "target" with
  | none | some .null => none
  | some target =>
      if foreignGateway (memberText library target "gatewayId") then
        some (.error "invalid_argument")
      else
        match slotFromPortId (memberText library target "portId") with
        | some slot => some (.ok slot)
        | none => some (.error "port_not_found")

def slaveIdKeys : List String := ["slave_id", "deviceId", "slaveAddress"]
def deviceTypeKeys : List String := ["device_type", "deviceType"]

/-- A refusal that `data_ack_send` reports. -/
def refuse (reason : String) : BoardAck :=
  ackSend context seq cmd false reason (ackMessageFromReason reason)

def outcomeReason : String :=
  match outcomes.portManager with
  | .ok _ => ""
  | .error reason => reason

def succeeded : Bool :=
  match outcomes.portManager with
  | .ok _ => true
  | .error _ => false

def outcomeMessage (success : String) : String :=
  if succeeded outcomes then success else ackMessageFromReason (outcomeReason outcomes)

def pollInterval (device : Json) : Int32 :=
  let first := ((device.lookup "pollIntervalMs").map getInt).getD 0
  if first.toInt ≤ 0 then ((device.lookup "poll_interval_ms").map getInt).getD first else first

def handleAddDevice : BoardAck :=
  match targetSlot library root with
  | some (.error reason) => refuse context seq cmd reason
  | slotNamed =>
      let slot := match slotNamed with
        | some (.ok slot) => slot
        | _ => ((root.lookup "slot").map getInt).getD 0
      let device := (root.lookup "device").getD root
      let slaveId := jsonGetIntAny device slaveIdKeys 0
      let deviceType := jsonGetStringAny library device deviceTypeKeys "unknown"
      let poll := pollInterval device
      if slaveId.toInt ≤ 0 then
        ackSendDeviceResult context seq cmd false "invalid_request" "missing field: slave_id" slot
          slaveId deviceType poll
      else if deviceType = "" ∨ deviceType = "unknown" then
        ackSendDeviceResult context seq cmd false "invalid_request" "missing field: device_type"
          slot slaveId deviceType poll
      else
        ackSendDeviceResult context seq cmd (succeeded outcomes) (outcomeReason outcomes)
          (outcomeMessage outcomes "device added") slot slaveId deviceType poll

def handleSetDeviceThreshold : BoardAck :=
  let slot := ((root.lookup "slot").map getInt).getD 0
  let slaveId := jsonGetIntAny root slaveIdKeys 0
  match parseSensorThresholdConfig getFloat root with
  | none => refuse context seq cmd "invalid_request"
  | some config =>
      ackSendThresholdResult context seq cmd (succeeded outcomes) (outcomeReason outcomes)
        (outcomeMessage outcomes "threshold updated") slot slaveId "sensor_th" config

def handleRemoveDevice : BoardAck :=
  match targetSlot library root with
  | some (.error reason) => refuse context seq cmd reason
  | slotNamed =>
      let fromTarget := match slotNamed with
        | some (.ok slot) => slot
        | _ => 0
      let slot := ((root.lookup "slot").map getInt).getD fromTarget
      let slaveId := jsonGetIntAny root slaveIdKeys 0
      let deviceType := jsonGetStringAny library root deviceTypeKeys "unknown"
      ackSendDeviceResult context seq cmd (succeeded outcomes) (outcomeReason outcomes)
        (outcomeMessage outcomes "device removed") slot slaveId deviceType 0

/-- The mask of a list of states, of which the first sixteen count. -/
def relayMask (states : List Json) : BitVec 16 :=
  (List.range 16).foldl (fun mask bit =>
    if JsonC.getBoolean (states.getD bit .null) then mask ||| (1#16 <<< bit) else mask) 0

theorem getLsbD_one_shiftLeft (first bit : Nat) :
    (1#16 <<< first).getLsbD bit = decide (bit < 16 ∧ bit = first) := by
  rw [BitVec.getLsbD_shiftLeft, BitVec.getLsbD_one, Bool.eq_iff_iff]
  simp
  omega

/-- Setting the bits of a predicate one after the other. -/
theorem getLsbD_foldl_setBit (on : Nat -> Bool) (bits : List Nat) (mask : BitVec 16) (bit : Nat) :
    (bits.foldl (fun mask bit => if on bit then mask ||| (1#16 <<< bit) else mask) mask).getLsbD bit =
      (mask.getLsbD bit || decide (bit < 16 ∧ bit ∈ bits) && on bit) := by
  induction bits generalizing mask with
  | nil => simp
  | cons first bits ih =>
      rw [List.foldl_cons, ih]
      by_cases same : bit = first
      · subst same
        cases value : on bit
        · simp
        · simp only [if_true, BitVec.getLsbD_or, getLsbD_one_shiftLeft, List.mem_cons, true_or,
            and_true, Bool.and_true, Bool.or_assoc]
          congr 1
          by_cases small : bit < 16 <;> simp [small]
      · have other : (1#16 <<< first).getLsbD bit = false := by
          rw [getLsbD_one_shiftLeft]
          exact decide_eq_false (fun both => same both.2)
        cases on first <;> simp [other, same]

theorem getLsbD_relayMask (states : List Json) {bit : Nat} (small : bit < 16) :
    (relayMask states).getLsbD bit = JsonC.getBoolean (states.getD bit .null) := by
  rw [relayMask, getLsbD_foldl_setBit (fun bit => JsonC.getBoolean (states.getD bit .null))]
  simp [small]

/-- The mask `set_relay` writes; `none` when it is refused. -/
def requestedMask : Option (BitVec 16) :=
  match root.lookup "states" with
  | none => none
  | some (.arr []) => none
  | some (.arr states) => some (relayMask states)
  | some value => some (BitVec.ofInt 16 (getInt value).toInt)

/-- The reason in the answer to `set_relay`. -/
def relayReason : String :=
  if outcomeReason outcomes = "relay_not_connected" then "relay_not_found"
  else outcomeReason outcomes

def relayMessage : String :=
  if succeeded outcomes then "relay write success"
  else if relayReason outcomes = "relay_not_found" then "relay device not found"
  else if relayReason outcomes = "port_not_connected" then "port is not connected"
  else if relayReason outcomes = "modbus_write_failed" then "relay write failed"
  else ackMessageFromReason (relayReason outcomes)

def handleSetRelay : BoardAck :=
  let slot := ((root.lookup "slot").map getInt).getD 0
  let slaveId := jsonGetIntAny root slaveIdKeys 1
  let deviceId := jsonGetIntAny root ["device_id", "deviceId", "slave_id"] slaveId
  match requestedMask root with
  | none =>
      ackSendRelayResult context seq cmd false "invalid_request" "invalid relay command" slot
        slaveId deviceId 0
  | some mask =>
      ackSendRelayResult context seq cmd (succeeded outcomes) (relayReason outcomes)
        (relayMessage outcomes) slot slaveId deviceId mask

def handleGetConfig : BoardAck :=
  let published := ackSend context seq cmd true "" "config snapshot published"
  match root.lookup "target" with
  | none | some .null =>
      if outcomes.latestSnapshot = .ok then published
      else refuse context seq cmd "config_snapshot_failed"
  | some target =>
      if foreignGateway (memberText library target "gatewayId") then
        refuse context seq cmd "invalid_argument"
      else if !outcomes.exported then refuse context seq cmd "config_snapshot_failed"
      else if outcomes.snapshotSent ≠ .ok then refuse context seq cmd "mqtt_publish_failed"
      else published

/-- The commands of the table whose handlers only serve the local interface. -/
def localCommands : List String :=
  ["scan_ports", "get_runtime_state", "connect_port", "disconnect_port",
    "get_offline_cache_config", "set_offline_cache_config", "clear_offline_cache",
    "flush_offline_cache"]

def processCommandMessage : Option BoardAck :=
  if cmd = "" then some (ackSend context seq "" false "invalid_request" "missing field: cmd")
  else if localCommands.contains cmd then none
  else if cmd = "add_device" then some (handleAddDevice library outcomes context seq root cmd)
  else if cmd = "set_device_threshold" ∨ cmd = "set_threshold" then
    some (handleSetDeviceThreshold getFloat outcomes context seq root cmd)
  else if cmd = "remove_device" then
    some (handleRemoveDevice library outcomes context seq root cmd)
  else if cmd = "set_relay" then some (handleSetRelay outcomes context seq root cmd)
  else if cmd = "get_config" ∨ cmd = "request_config_snapshot" then
    some (handleGetConfig library outcomes context seq root cmd)
  else some (refuse context seq cmd "unsupported_command")

/-- The keys a payload takes over from the message around it. -/
def copyKeys : List String :=
  ["gatewayId", "gateway_id", "portId", "port_id", "cmd_id", "cmdId", "commandId", "cmd",
    "cmdType", "commandType", "command", "seq", "sequence", "timestampMs"]

/-- Copy a member unless the payload has its own. -/
def copyMember (payload : List (String × Json)) (key : String) : List (String × Json) :=
  match payload.lookup key, root.lookup key with
  | none, some value => Json.putMember key value payload
  | _, _ => payload

def commandEffectiveRoot : Json :=
  match root.lookup "payload" with
  | some (.obj payload) =>
      let withTarget := match root.lookup "target" with
        | none | some .null => payload
        | some target => Json.putMember "target" target payload
      .obj (copyKeys.foldl (copyMember root) withTarget)
  | _ => root

theorem lookup_copyMember (payload : List (String × Json)) (copied key : String) :
    (copyMember root payload copied).lookup key =
      if key = copied then (payload.lookup key).or (root.lookup key) else payload.lookup key := by
  unfold copyMember
  split
  · rename_i value absent present
    rw [Json.lookup_putMember]
    split
    · rename_i same
      rw [same, absent, present]
      rfl
    · rfl
  · rename_i absent
    split
    · rename_i same
      subst same
      cases own : payload.lookup key with
      | some value => rfl
      | none =>
          cases other : root.lookup key with
          | none => rfl
          | some value => exact (absent value own other).elim
    · rfl

theorem lookup_copyMembers (keys : List String) (payload : List (String × Json)) (key : String) :
    (keys.foldl (copyMember root) payload).lookup key =
      if key ∈ keys then (payload.lookup key).or (root.lookup key) else payload.lookup key := by
  induction keys generalizing payload with
  | nil => rfl
  | cons first keys ih =>
      rw [List.foldl_cons, ih, lookup_copyMember]
      by_cases same : key = first
      · rw [if_pos same, if_pos (List.mem_cons.mpr (Or.inl same))]
        split
        · rw [Option.or_assoc, Option.or_self]
        · rfl
      · simp [same]

/-- A payload keeps its own members, apart from the target. -/
theorem lookup_commandEffectiveRoot {payload : List (String × Json)}
    (nested : root.lookup "payload" = some (.obj payload)) {key : String}
    (notTarget : key ≠ "target") :
    (commandEffectiveRoot root).lookup key =
      if key ∈ copyKeys then (payload.lookup key).or (root.lookup key)
      else payload.lookup key := by
  have kept : (match root.lookup "target" with
      | none | some .null => payload
      | some target => Json.putMember "target" target payload).lookup key = payload.lookup key := by
    split
    · rfl
    · rfl
    · rw [Json.lookup_putMember, if_neg notTarget]
  unfold commandEffectiveRoot
  rw [nested]
  simp only [Json.lookup_obj, lookup_copyMembers]
  rw [kept]

theorem lookup_commandEffectiveRoot_untargeted {payload : List (String × Json)}
    (nested : root.lookup "payload" = some (.obj payload))
    (untargeted : root.lookup "target" = none) {key : String} (notCopied : key ∉ copyKeys) :
    (commandEffectiveRoot root).lookup key = payload.lookup key := by
  unfold commandEffectiveRoot
  rw [nested, untargeted]
  simp only [Json.lookup_obj, lookup_copyMembers, if_neg notCopied]

def commandKeys : List String := ["cmdType", "cmd", "commandType", "command"]
def cmdIdKeys : List String := ["cmd_id", "cmdId", "commandId"]

def commandSeq : UInt32 :=
  match getObjectAny root ["seq", "sequence"] with
  | some value => UInt32.ofNat ((JsonC.getInt64 value) % 2 ^ 32).toNat
  | none => 0

/-- `data_command_process_message` for a parsed message: the answer to a
command.  Messages without a command are left out. -/
def processRoot (nowMs : Int64) : Option BoardAck :=
  let context : AckContext :=
    ⟨setCurrentCmdId (jsonGetStringAny library root cmdIdKeys ""), nowMs⟩
  let msgType := memberText library root "type"
  if msgType = some "ack" then none
  else
    match (getObjectAny root commandKeys).bind library.getString with
    | some cmd =>
        if msgType ≠ none ∧ msgType ≠ some "" ∧ msgType ≠ some "command" then
          some (refuse context (commandSeq root) cmd "invalid_request")
        else processCommandMessage getFloat library outcomes context (commandSeq root)
          (commandEffectiveRoot root) cmd
    | none =>
        if msgType ≠ none ∧ msgType ≠ some "" then
          some (ackSend context (commandSeq root) "" false "invalid_request" "missing field: cmd")
        else none

def dataCommandProcessMessage (nowMs : Int64) (text : String) : Option BoardAck :=
  (library.parse text).bind fun root => processRoot getFloat library outcomes root nowMs

end Handlers
end Board
end Imx6Gateway
