import Imx6Gateway.Library.Transition
import Imx6Gateway.Ui.CommandResult
import Imx6Gateway.Ui.RelayCommand

namespace Imx6Gateway
namespace Ui

open Library

/-!
# The commands of the user interface

`CommandManager` with all of its maps: the commands that wait for their end,
one timer for each of them, and for the relay commands the channel each of
them holds, the command that holds a channel, and the states that were asked
for.  A command is tracked when it is sent, and forgotten by `finishCommand`.

The texts for the user are left out, and so is what a timer does when it
fires: it only tells the user that the command still waits.  `issued` is no
data of the program; it remembers what was sent.
-/

structure RelayPendingInfo where
  deviceKey : String
  channel : String
  commandKey : String
deriving DecidableEq

/-- What a relay command asks for. -/
structure RelayRequest where
  deviceKey : String
  channel : String
  value : Bool
deriving DecidableEq

def RelayRequest.commandKey (request : RelayRequest) : String :=
  request.deviceKey ++ "|" ++ normalizeRelayChannel request.channel

def RelayRequest.info (request : RelayRequest) : RelayPendingInfo :=
  ⟨request.deviceKey, request.channel, request.commandKey⟩

/-- A command that was sent, with the request of a relay command. -/
structure IssuedCommand where
  cmdId : String
  relay : Option RelayRequest
deriving DecidableEq

structure CommandTracker where
  manager : CommandManager
  timeoutTimers : Table String Nat
  relayByCmdId : Table String RelayPendingInfo
  relayCmdIdByKey : Table String String
  relayDesiredByDevice : Table String Channels
  cmdCounter : UInt64
  issued : List IssuedCommand

namespace CommandTracker

def start : CommandTracker := ⟨⟨∅, []⟩, ∅, ∅, ∅, ∅, 0, []⟩

variable (tracker : CommandTracker)

/-- The identifier with a text of the time, such as `20260102030405006`. -/
def createCmdId (time : String) : String :=
  "CMD" ++ time ++ "_" ++ toString (tracker.cmdCounter + 1).toNat

/-- The counter moves on with every identifier. -/
def counted : CommandTracker :=
  { tracker with cmdCounter := tracker.cmdCounter + 1 }

def startCommandTimeout (cmdId : String) : CommandTracker :=
  { tracker with timeoutTimers := tracker.timeoutTimers.put cmdId 20000 }

def insert (cmdId : String) (record : CommandRecord) : CommandTracker :=
  { tracker with manager := tracker.manager.insert cmdId record }

def desiredOf (deviceKey : String) : Channels :=
  (tracker.relayDesiredByDevice.get deviceKey).getD []

/-- Take the channel of a relay command, before its timer starts. -/
def holdRelay (cmdId : String) (request : RelayRequest) : CommandTracker :=
  { tracker with
    relayByCmdId := tracker.relayByCmdId.put cmdId request.info
    relayCmdIdByKey := tracker.relayCmdIdByKey.put request.commandKey cmdId
    relayDesiredByDevice := tracker.relayDesiredByDevice.put request.deviceKey
      (SortedMap.insert request.channel request.value (tracker.desiredOf request.deviceKey)) }

def clearRelayPending (cmdId : String) : CommandTracker :=
  match tracker.relayByCmdId.get cmdId with
  | none => tracker
  | some info =>
      { tracker with
        relayByCmdId := AList.erase cmdId tracker.relayByCmdId
        relayCmdIdByKey := AList.erase info.commandKey tracker.relayCmdIdByKey
        relayDesiredByDevice :=
          match tracker.relayDesiredByDevice.get info.deviceKey with
          | none => tracker.relayDesiredByDevice
          | some states =>
              let desired := SortedMap.erase info.channel states
              if desired = [] then AList.erase info.deviceKey tracker.relayDesiredByDevice
              else tracker.relayDesiredByDevice.put info.deviceKey desired }

def finishCommand (cmdId : String) (outcome : CommandOutcome) : CommandTracker :=
  clearRelayPending
    { tracker with
      manager := tracker.manager.finishCommand cmdId outcome
      timeoutTimers := AList.erase cmdId tracker.timeoutTimers }
    cmdId

/-! ## Sending -/

def pendingRecord (command gatewayId portId : String) : CommandRecord :=
  ⟨command, gatewayId, portId, "pending", false, ""⟩

/-- A command that is no relay command is kept and gets its timer. -/
def track (cmdId : String) (record : CommandRecord) : CommandTracker :=
  { (tracker.insert cmdId record).startCommandTimeout cmdId with
    issued := tracker.issued ++ [⟨cmdId, none⟩] }

def trackRelay (cmdId : String) (record : CommandRecord) (request : RelayRequest) :
    CommandTracker :=
  { ((tracker.insert cmdId record).holdRelay cmdId request).startCommandTimeout cmdId with
    issued := tracker.issued ++ [⟨cmdId, some request⟩] }

/-- The keys in use and the wanted states, as a new relay command sees them. -/
def pendingRelays : PendingRelays :=
  ⟨tracker.relayCmdIdByKey.keys, tracker.relayDesiredByDevice.pairs⟩

/-- The relay command, with the message for Pc_data if there is one. -/
def sendRelayCommand (time : String) (timestamp : Int) (device : DeviceNode) (channel : String)
    (value : Bool) (currentStates : Channels) : CommandTracker × Option Json :=
  let cmdId := tracker.createCmdId time
  match Ui.sendRelayCommand tracker.pendingRelays cmdId timestamp device channel value
    currentStates with
  | none => (tracker.counted, none)
  | some message =>
      (tracker.counted.trackRelay cmdId (pendingRecord "set_relay" device.gatewayId device.port)
        ⟨relayDeviceKey device, normalizeRelayChannel channel, value⟩, some message)

/-- A command that is not sent only uses up an identifier. -/
theorem sendRelayCommand_unsent {time : String} {timestamp : Int} {device : DeviceNode}
    {channel : String} {value : Bool} {currentStates : Channels}
    (unsent : Ui.sendRelayCommand tracker.pendingRelays (tracker.createCmdId time) timestamp device
      channel value currentStates = none) :
    tracker.sendRelayCommand time timestamp device channel value currentStates =
      (tracker.counted, none) := by
  unfold sendRelayCommand
  dsimp only
  rw [unsent]

theorem sendRelayCommand_sent {time : String} {timestamp : Int} {device : DeviceNode}
    {channel : String} {value : Bool} {currentStates : Channels} {message : Json}
    (sent : Ui.sendRelayCommand tracker.pendingRelays (tracker.createCmdId time) timestamp device
      channel value currentStates = some message) :
    tracker.sendRelayCommand time timestamp device channel value currentStates =
      (tracker.counted.trackRelay (tracker.createCmdId time)
        (pendingRecord "set_relay" device.gatewayId device.port)
        ⟨relayDeviceKey device, normalizeRelayChannel channel, value⟩, some message) := by
  unfold sendRelayCommand
  dsimp only
  rw [sent]

/-- `toBool` of a variant. -/
def variantToBool : Json -> Bool
  | .bool value => value
  | .int value => value ≠ 0
  | .real value => value ≠ 0
  | .str text => ¬["", "0", "false"].contains text.toLower
  | _ => false

/-- The thresholds of a new device, if it has some and they are enabled. -/
def enabledThresholds (deviceOptions : List (String × Json)) : List (String × Json) :=
  match deviceOptions.lookup "threshold_enabled", deviceOptions.lookup "thresholds" with
  | some enabled, some (.obj thresholds) =>
      if variantToBool enabled ∧ thresholds ≠ [] then
        [("threshold_enabled", .bool true), ("thresholds", .obj thresholds)]
      else []
  | _, _ => []

/-- The options a device keeps besides its thresholds. -/
def otherOptions (deviceOptions : List (String × Json)) : List (String × Json) :=
  deviceOptions.filter fun option => option.1 ≠ "threshold_enabled" && option.1 ≠ "thresholds"

def newDeviceMembers (deviceId : Int) (deviceType : String) (pollIntervalMs : Int) :
    List (String × Json) :=
  [("slave_id", .int deviceId), ("deviceId", .int deviceId), ("slaveAddress", .int deviceId),
    ("device_type", .str deviceType), ("deviceType", .str deviceType),
    ("poll_interval_ms", .int pollIntervalMs), ("pollIntervalMs", .int pollIntervalMs)]

def commandHeader (cmdId command gatewayId portId : String) (timestamp : Int) :
    List (String × Json) :=
  [("type", .str "command"), ("msg_type", .str "command"), ("version", .int 1),
    ("cmd_id", .str cmdId), ("seq", .int timestamp), ("timestamp", .int timestamp),
    ("timestampMs", .int timestamp), ("commandType", .str command), ("cmdType", .str command),
    ("cmd", .str command), ("gatewayId", .str gatewayId), ("portId", .str portId),
    ("target", .obj [("gatewayId", .str gatewayId), ("portId", .str portId)])]

def addDeviceJson (cmdId gatewayId portId : String) (timestamp deviceId : Int)
    (deviceType : String) (pollIntervalMs : Int) (deviceOptions : List (String × Json)) : Json :=
  let members := newDeviceMembers deviceId deviceType pollIntervalMs
  let others := otherOptions deviceOptions
  .obj (commandHeader cmdId "add_device" gatewayId portId timestamp ++
    [("device", .obj (members ++
        if others = [] then [] else [("device_options", .obj others)])),
      ("deviceId", .int deviceId), ("deviceType", .str deviceType), ("slave_id", .int deviceId)] ++
    enabledThresholds deviceOptions ++
    [("payload", .obj (members ++ enabledThresholds deviceOptions))])

def sendAddDeviceCommand (time : String) (timestamp : Int) (gatewayId portId : String)
    (deviceId : Int) (deviceType : String) (pollIntervalMs : Int)
    (deviceOptions : List (String × Json)) : CommandTracker × Option Json :=
  if gatewayId = "" ∨ portId = "" ∨ deviceId ≤ 0 ∨ deviceType = "" ∨ pollIntervalMs ≤ 0 then
    (tracker, none)
  else
    let cmdId := tracker.createCmdId time
    (tracker.counted.track cmdId (pendingRecord "add_device" gatewayId portId),
      some (addDeviceJson cmdId gatewayId portId timestamp deviceId deviceType pollIntervalMs
        deviceOptions))

def removeDeviceJson (cmdId gatewayId portId : String) (timestamp deviceId : Int) : Json :=
  .obj (commandHeader cmdId "remove_device" gatewayId portId timestamp ++
    [("deviceId", .int deviceId), ("slave_id", .int deviceId),
      ("payload", .obj [("deviceId", .int deviceId), ("slave_id", .int deviceId)])])

def sendRemoveDeviceCommand (time : String) (timestamp : Int) (gatewayId portId : String)
    (deviceId : Int) : CommandTracker × Option Json :=
  if gatewayId = "" ∨ portId = "" ∨ deviceId ≤ 0 then (tracker, none)
  else
    let cmdId := tracker.createCmdId time
    (tracker.counted.track cmdId (pendingRecord "remove_device" gatewayId portId),
      some (removeDeviceJson cmdId gatewayId portId timestamp deviceId))

/-! ## The messages of Pc_data -/

def onCommandAck (object : Json) : CommandTracker :=
  let cmdId := textOr (object.lookup "cmd_id") ""
  let stage := textOr (object.lookup "stage") ""
  let status := textOr (object.lookup "status") ""
  match if cmdId = "" then none else tracker.manager.pending.get cmdId with
  | none => tracker
  | some pending =>
      let record := CommandManager.acknowledged pending object
      if stage = "done" ∧ status = "success" ∧ record.ok then
        tracker.finishCommand cmdId .succeeded
      else if stage = "sent" ∧ record.ok then
        tracker.insert cmdId { record with ok := false, state := "running" }
      else if stage = "done" ∧ !record.ok then
        (tracker.insert cmdId { record with state := "failed" }).finishCommand cmdId .failed
      else if stage = "done" ∧ record.ok then tracker.finishCommand cmdId .succeeded
      else
        let goesOn := stage = "sent" ∨ stage = "accepted" ∨ record.ok
        let kept := tracker.insert cmdId
          { record with state := if goesOn then "running" else "failed" }
        if goesOn then kept else kept.finishCommand cmdId .failed

def onCommandLogUpdate (object : Json) : CommandTracker :=
  let cmdId := textOr (object.lookup "cmd_id") ""
  let stage := textOr (object.lookup "stage") ""
  let ok := ackSuccess object
  let status := textOr (object.lookup "status") (if ok then "success" else "failed")
  let reason := textOr (object.lookup "reason") ""
  match if cmdId = "" then none else tracker.manager.pending.get cmdId with
  | none => tracker
  | some record =>
      if stage = "sent" then tracker
      else if stage = "done" ∧ ok then tracker.finishCommand cmdId .succeeded
      else if stage = "done" then
        if status = "timeout" then
          tracker.insert cmdId
            { record with
              state := "timeout_waiting_ack"
              reason := if reason = "" then textOr (object.lookup "message") "" else reason }
        else tracker.finishCommand cmdId .failed
      else tracker

end CommandTracker

end Ui
end Imx6Gateway
