import Imx6Gateway.Library.BackwardRemoval
import Imx6Gateway.Library.Transition
import Imx6Gateway.LocalUi.DataParser
import Imx6Gateway.Ui.CommandResult
import Mathlib.Logic.Function.Basic

namespace Imx6Gateway
namespace LocalUi

open Library

/-!
# The state of the interface on the board

`ui/widget.cpp`: what the interface on the board keeps of the ports and the
slaves, and the commands whose answer it waits for.  A command has a timer of
five seconds, and a relay command that was answered one of eight seconds.
Some loops remove items of a list while they count its indices down; an index
outside of the list would end the program, and here gives no state.

Pages, texts and the count of the alarms are left out.  The environment
chooses the events, the clock, and which writes to the socket succeed.
-/

structure SlaveDeviceInfo where
  masterSlot : Int
  slaveAddr : Int
  deviceType : String
  displayName : String
  online : Bool
deriving DecidableEq

/-- A master's name follows from its slot. -/
structure MasterPortInfo where
  deviceNode : String := ""
  baudRate : Int := 9600
  connected : Bool := false
deriving DecidableEq

/-- `PendingAddSlave` and `PendingRemoveSlave` while they are active. -/
structure PendingSlave where
  seq : UInt32
  masterSlot : Int
  slaveAddr : Int
  deviceType : String
deriving DecidableEq

/-- `PendingRelayCommand` while it is active.  Nothing reads its start, and it
is reset as soon as it is confirmed. -/
structure PendingRelayCommand where
  seq : UInt32
  masterSlot : Int
  slaveAddr : Int
  oldStates : BitVec 32
  expectedStates : BitVec 32
  ackReceived : Bool
deriving DecidableEq

/-- The members of the class.  `confirmTimers` has the running timers of eight
seconds, and `sent` the messages the socket took. -/
structure Widget where
  isConnected : Bool
  connectedMasterSlots : List Int
  slaveDevices : List SlaveDeviceInfo
  relayStates : String -> Option (BitVec 32)
  runtimePorts : Int -> Option MasterPortInfo
  pendingCommands : UInt32 -> Option String
  pendingAddSlave : Option PendingSlave
  pendingRemoveSlave : Option PendingSlave
  pendingRelay : Option PendingRelayCommand
  confirmTimers : List UInt32
  nextCommandSeq : UInt32
  sent : List Json

/-- The clock, and whether the socket takes the command with a number. -/
structure Surroundings where
  nowMs : Int
  taken : UInt32 -> Bool

abbrev Members : Type := List (String × Json)

/-- `insert` of all members of another object. -/
def insertMembers (object inserted : Members) : Members :=
  object.filter (fun member => !inserted.any fun other => other.1 = member.1) ++ inserted

/-- The message of a command. -/
def commandMessage (cmd : String) (payload : Members) (seq : UInt32) (nowMs : Int) : Json :=
  .obj (insertMembers payload
    [("type", .str "command"), ("cmd", .str cmd), ("cmdType", .str cmd),
      ("commandType", .str cmd), ("seq", .int seq.toInt32.toInt), ("timestampMs", .int nowMs),
      ("payload", .obj payload)])

def relayStateKey (masterSlot slaveAddr : Int) : String :=
  toString masterSlot ++ ":" ++ toString slaveAddr

/-- The key of a slave in `handleRuntimeStateSnapshot`. -/
def slaveKey (masterSlot slaveAddr : Int) (deviceType : String) : String :=
  toString masterSlot ++ ":" ++ toString slaveAddr ++ ":" ++ deviceType

def relayStatesToArray (states : BitVec 32) : Json :=
  .arr ((List.range 4).map fun bit => .bool (states.getLsbD bit))

namespace Widget

/-- The state before the first connection. -/
def constructed : Widget where
  isConnected := false
  connectedMasterSlots := []
  slaveDevices := []
  relayStates := fun _ => none
  runtimePorts := fun _ => none
  pendingCommands := fun _ => none
  pendingAddSlave := none
  pendingRemoveSlave := none
  pendingRelay := none
  confirmTimers := []
  nextCommandSeq := 1
  sent := []

/-! ## Commands -/

/-- A number is used up by a command that the socket does not take. -/
def sendCommand (env : Surroundings) (cmd : String) (payload : Members) (widget : Widget) :
    Option UInt32 × Widget :=
  let seq := widget.nextCommandSeq
  let numbered := { widget with nextCommandSeq := seq + 1 }
  if ¬widget.isConnected then (none, widget)
  else if ¬env.taken seq then (none, numbered)
  else (some seq,
    { numbered with
      pendingCommands := Function.update widget.pendingCommands seq (some cmd)
      sent := widget.sent ++ [commandMessage cmd payload seq env.nowMs] })

def requestRuntimeRefresh (env : Surroundings) (widget : Widget) : Widget :=
  (((widget.sendCommand env "get_runtime_state" []).2).sendCommand env "scan_ports" []).2

def requestOfflineCacheConfig (env : Surroundings) (widget : Widget) : Widget :=
  (widget.sendCommand env "get_offline_cache_config" []).2

def completePendingCommand (seq : UInt32) (widget : Widget) : Widget :=
  { widget with pendingCommands := Function.update widget.pendingCommands seq none }

def failAllPendingCommands (widget : Widget) : Widget :=
  { widget with
    pendingCommands := fun _ => none
    pendingAddSlave := none
    pendingRemoveSlave := none
    pendingRelay := none }

def failPendingRelay (widget : Widget) : Widget :=
  match widget.pendingRelay with
  | none => widget
  | some relay =>
      { widget with
        relayStates := Function.update widget.relayStates
          (relayStateKey relay.masterSlot relay.slaveAddr) (some relay.oldStates)
        pendingRelay := none }

/-- A pending operation ends if it has the number. -/
def withoutSeq (seq : UInt32) (pending : Option PendingSlave) : Option PendingSlave :=
  pending.filter fun slave => slave.seq ≠ seq

def relayHasSeq (seq : UInt32) (widget : Widget) : Bool :=
  widget.pendingRelay.any fun relay => relay.seq = seq

def withPending (pendingAddSlave pendingRemoveSlave : Option PendingSlave) (widget : Widget) :
    Widget :=
  { widget with pendingAddSlave, pendingRemoveSlave }

/-- The timer of five seconds. -/
def commandTimeout (seq : UInt32) (widget : Widget) : Widget :=
  match widget.pendingCommands seq with
  | none => widget
  | some _ =>
      let ended := (widget.completePendingCommand seq).withPending
        (withoutSeq seq widget.pendingAddSlave) (withoutSeq seq widget.pendingRemoveSlave)
      if ended.relayHasSeq seq then ended.failPendingRelay else ended

/-- The timer of eight seconds. -/
def confirmTimeout (seq : UInt32) (widget : Widget) : Widget :=
  { widget with
    confirmTimers := widget.confirmTimers.erase seq
    pendingRelay := widget.pendingRelay.filter fun relay => relay.seq ≠ seq }

end Widget

/-! ## The list of slaves -/

namespace SlaveDeviceInfo

def named (slave : SlaveDeviceInfo) (masterSlot slaveAddr : Int) (deviceType : String) : Bool :=
  slave.masterSlot = masterSlot && slave.slaveAddr = slaveAddr && slave.deviceType = deviceType

end SlaveDeviceInfo

/-- The list of slaves, and the last known states of the relays. -/
abbrev SlaveTable : Type := List SlaveDeviceInfo × (String -> Option (BitVec 32))

def displayName (slaveAddr : Int) (deviceName deviceType : String) : String :=
  let typeName := if deviceType = "sensor_th" then "温湿度传感器"
    else if deviceType = "relay" then "继电器" else deviceType
  let name := if deviceName = "" then "从站 " ++ toString slaveAddr else deviceName
  if name = "" then typeName else name

/-- The first slave with the key gets the name, or else a slave is added. -/
def upsertRegisteredSlave (masterSlot slaveAddr : Int) (deviceName deviceType : String)
    (slaves : List SlaveDeviceInfo) : List SlaveDeviceInfo :=
  let shown := displayName slaveAddr deviceName deviceType
  if masterSlot < 0 ∨ slaveAddr ≤ 0 ∨ deviceType = "" then slaves
  else if slaves.any fun slave => slave.named masterSlot slaveAddr deviceType then
    slaves.replaceF fun slave =>
      if slave.named masterSlot slaveAddr deviceType then some { slave with displayName := shown }
      else none
  else slaves ++ [⟨masterSlot, slaveAddr, deviceType, shown, false⟩]

/-- Both parts of `removeRegisteredSlave`: the loop over the list, and the
relay state. -/
def removeRegisteredSlave (masterSlot slaveAddr : Int) (deviceType : String) (table : SlaveTable) :
    Option SlaveTable :=
  (removeDown id (fun index slave slaves =>
      some (if slave.named masterSlot slaveAddr deviceType then slaves.eraseIdx index else slaves))
    table.1.length table.1).map fun slaves =>
      (slaves, Function.update table.2 (relayStateKey masterSlot slaveAddr) none)

/-- The loop of `handleRuntimeStateSnapshot` and of `handleRemoteRemoveDeviceAck`:
the slaves that meet a condition are removed by their keys. -/
def removeSlavesWhere (condition : SlaveDeviceInfo -> Bool) (table : SlaveTable) :
    Option SlaveTable :=
  removeDown Prod.fst (fun _ slave table =>
      if condition slave then
        removeRegisteredSlave slave.masterSlot slave.slaveAddr slave.deviceType table
      else some table)
    table.1.length table

/-- The first slave with the key changes whether it is online. -/
def updateSlaveOnline (masterSlot slaveAddr : Int) (deviceType : String) (online : Bool)
    (slaves : List SlaveDeviceInfo) : List SlaveDeviceInfo :=
  slaves.replaceF fun slave =>
    if slave.named masterSlot slaveAddr deviceType then some { slave with online := online }
    else none

namespace Widget

def slaveTable (widget : Widget) : SlaveTable :=
  (widget.slaveDevices, widget.relayStates)

def withTable (widget : Widget) (table : SlaveTable) : Widget :=
  { widget with slaveDevices := table.1, relayStates := table.2 }

/-! ## The connection and the ports -/

def handleIpcConnected (env : Surroundings) (widget : Widget) : Widget :=
  let connected : Widget := { widget with isConnected := true }
  (connected.requestRuntimeRefresh env).requestOfflineCacheConfig env

def handleIpcDisconnected (widget : Widget) : Widget :=
  let cleared : Widget :=
    { widget with
      isConnected := false
      slaveDevices := widget.slaveDevices.map fun slave => { slave with online := false }
      connectedMasterSlots := []
      relayStates := fun _ => none
      runtimePorts := fun _ => none }
  cleared.failAllPendingCommands

/-- The pending relay command stays. -/
def markMasterRuntimeOffline (masterSlot : Int) (widget : Widget) : Widget :=
  let keyPrefix := (toString masterSlot ++ ":").toList
  { widget with
    slaveDevices := widget.slaveDevices.map fun slave =>
      if slave.masterSlot = masterSlot then { slave with online := false } else slave
    relayStates := fun key =>
      if keyPrefix.isPrefixOf key.toList then none else widget.relayStates key
    pendingAddSlave := widget.pendingAddSlave.filter fun slave => slave.masterSlot ≠ masterSlot
    pendingRemoveSlave := widget.pendingRemoveSlave.filter fun slave =>
      slave.masterSlot ≠ masterSlot }

/-- The set of connected slots and the table of the ports change together. -/
def setPort (slot : Int) (info : MasterPortInfo) (widget : Widget) : Widget :=
  { widget with
    connectedMasterSlots :=
      if info.connected then widget.connectedMasterSlots.insert slot
      else widget.connectedMasterSlots.filter fun other => other ≠ slot
    runtimePorts := Function.update widget.runtimePorts slot (some info) }

def portStatusUpdated (env : Surroundings) (slot : Int) (port : String) (baud : Int)
    (connected : Bool) (message : String) (widget : Widget) : Widget :=
  let info := (widget.runtimePorts slot).getD {}
  if connected then
    let changed := widget.setPort slot
      { info with
        deviceNode := port
        baudRate := if 0 < baud then baud else 9600
        connected := true }
    if message ≠ "restored" then (changed.sendCommand env "get_runtime_state" []).2 else changed
  else
    (widget.setPort slot
      { info with
        deviceNode := if port = "" then info.deviceNode else port
        baudRate := if 0 < baud then baud else info.baudRate
        connected := false }).markMasterRuntimeOffline slot

/-! ## The snapshot of the ports -/

/-- A device of the snapshot, if it has an address and a type. -/
def snapshotDevice (value : Json) : Option (Int × String × String) :=
  match value with
  | .obj members =>
      let object := Json.obj members
      let deviceId := Ui.intOr (object.lookup "deviceId") (Ui.intOr (object.lookup "slave_id") 0)
      let deviceType := Ui.textOr (object.lookup "deviceType") ""
      if deviceId ≤ 0 ∨ deviceType = "" then none
      else some (deviceId, Ui.textOr (object.lookup "deviceName") "", deviceType)
  | _ => none

/-- A port of the snapshot, if it has a slot. -/
def snapshotPort (value : Json) : Option (Int × Json) :=
  match value with
  | .obj members =>
      let object := Json.obj members
      let slot := Ui.intOr (object.lookup "slot") (-1)
      if slot < 0 then none else some (slot, object)
  | _ => none

def snapshotDevices (port : Json) : List (Int × String × String) :=
  (toArray (port.lookup "devices")).filterMap snapshotDevice

/-- One turn of the loop over the ports. -/
def takePort (widget : Widget) (slot : Int) (object : Json) : Widget :=
  let port := Ui.textOr (object.lookup "port") ""
  let baud := Ui.intOr (object.lookup "baud") 9600
  let info := (widget.runtimePorts slot).getD {}
  let changed := widget.setPort slot
    { deviceNode := if port = "" then info.deviceNode else port
      baudRate := if 0 < baud then baud else info.baudRate
      connected := Ui.boolOr (object.lookup "connected") false }
  { changed with
    slaveDevices := (snapshotDevices object).foldl (fun slaves device =>
      upsertRegisteredSlave slot device.1 device.2.1 device.2.2 slaves) changed.slaveDevices }

/-- The slots of the snapshot, and the keys of its slaves. -/
def snapshotSlots (ports : List Json) : List Int :=
  (ports.filterMap snapshotPort).map Prod.fst

def snapshotSlaveKeys (ports : List Json) : List String :=
  (ports.filterMap snapshotPort).flatMap fun port =>
    (snapshotDevices port.2).map fun device => slaveKey port.1 device.1 device.2.2

/-- A slave of a slot of the snapshot that is not in it. -/
def goneFrom (ports : List Json) (slave : SlaveDeviceInfo) : Bool :=
  (snapshotSlots ports).contains slave.masterSlot &&
    !(snapshotSlaveKeys ports).contains
      (slaveKey slave.masterSlot slave.slaveAddr slave.deviceType)

def handleRuntimeStateSnapshot (ports : List Json) (widget : Widget) : Option Widget :=
  let taken := (ports.filterMap snapshotPort).foldl
    (fun widget port => widget.takePort port.1 port.2) widget
  (removeSlavesWhere (goneFrom ports) taken.slaveTable).map taken.withTable

/-! ## Answers to commands -/

def slotFromPortId (portId : String) : Int :=
  if portId = "port_001" ∨ portId = "RS485-1" then 0
  else if portId = "port_002" ∨ portId = "RS485-2" then 1
  else -1

/-- The slot and the address that an answer to a removal names, or else those
of the pending removal. -/
def removedSlave (ack : Json) (widget : Widget) : Int × Int :=
  let masterSlot := Ui.intOr (ack.lookup "slot") (-1)
  let slaveAddr := Ui.intOr (ack.lookup "slave_id") (Ui.intOr (ack.lookup "deviceId") 0)
  let target := toObject (ack.lookup "target")
  let masterSlot := match target with
    | .obj [] => masterSlot
    | target =>
        if masterSlot < 0 then slotFromPortId (Ui.textOr (target.lookup "portId") "")
        else masterSlot
  let slaveAddr := if slaveAddr ≤ 0 then
    Ui.intOr (target.lookup "deviceId") (Ui.intOr (target.lookup "slave_id") 0) else slaveAddr
  match widget.pendingRemoveSlave with
  | some pending =>
      (if masterSlot < 0 then pending.masterSlot else masterSlot,
        if slaveAddr ≤ 0 then pending.slaveAddr else slaveAddr)
  | none => (masterSlot, slaveAddr)

def handleRemoteRemoveDeviceAck (ack : Json) (widget : Widget) : Option Widget :=
  let (masterSlot, slaveAddr) := widget.removedSlave ack
  if masterSlot < 0 ∨ slaveAddr ≤ 0 then some widget
  else
    (removeSlavesWhere (fun slave => slave.masterSlot = masterSlot && slave.slaveAddr = slaveAddr)
      widget.slaveTable).map widget.withTable

def ackSucceeded (status : String) (ackRoot : Json) : Bool :=
  if Ui.textOr (ackRoot.lookup "stage") "" ≠ "done" then false
  else if (ackRoot.lookup "ok").isSome then
    Ui.boolOr (ackRoot.lookup "ok") false && status = "success"
  else status = "success"

/-- A change of the cache is followed by a question for its state. -/
def handleOfflineCacheAck (env : Surroundings) (cmd : String) (ok : Bool) (widget : Widget) :
    Widget :=
  if ¬ok ∨ cmd = "get_offline_cache_config" then widget else widget.requestOfflineCacheConfig env

def commandFailed (cmd : String) (seq : UInt32) (widget : Widget) : Widget :=
  let ended := widget.withPending
    (if cmd = "add_device" then withoutSeq seq widget.pendingAddSlave else widget.pendingAddSlave)
    (if cmd = "remove_device" then withoutSeq seq widget.pendingRemoveSlave
      else widget.pendingRemoveSlave)
  if cmd = "set_relay" ∧ ended.relayHasSeq seq then ended.failPendingRelay else ended

def acknowledgeRelay (widget : Widget) : Widget :=
  { widget with
    pendingRelay := widget.pendingRelay.map fun relay => { relay with ackReceived := true } }

def startConfirmTimer (seq : UInt32) (widget : Widget) : Widget :=
  { widget with confirmTimers := widget.confirmTimers ++ [seq] }

/-- The relay waits for a status that confirms it. -/
def relayAcknowledged (env : Surroundings) (seq : UInt32) (widget : Widget) : Widget :=
  (widget.acknowledgeRelay.requestRuntimeRefresh env).startConfirmTimer seq

def offlineCacheCommands : List String :=
  ["get_offline_cache_config", "set_offline_cache_config", "clear_offline_cache",
    "flush_offline_cache"]

def refreshingCommands : List String :=
  ["connect_port", "disconnect_port", "set_device_threshold", "add_device", "remove_device"]

def commandAckReceived (env : Surroundings) (seq : UInt32) (cmd status : String) (ackRoot : Json)
    (widget : Widget) : Option Widget :=
  let wasPending := (widget.pendingCommands seq).isSome
  let completed := widget.completePendingCommand seq
  let ok := ackSucceeded status ackRoot
  if offlineCacheCommands.contains cmd then some (completed.handleOfflineCacheAck env cmd ok)
  else if ¬ok then some (completed.commandFailed cmd seq)
  else if cmd = "add_device" ∧ (completed.pendingAddSlave.any fun slave => slave.seq = seq) then
    some ((completed.withPending none completed.pendingRemoveSlave).requestRuntimeRefresh env)
  else if cmd = "remove_device" then
    (completed.handleRemoteRemoveDeviceAck ackRoot).map fun removed =>
      (removed.withPending removed.pendingAddSlave
        (withoutSeq seq removed.pendingRemoveSlave)).requestRuntimeRefresh env
  else if cmd = "set_relay" ∧ completed.relayHasSeq seq then
    some (completed.relayAcknowledged env seq)
  else if ¬wasPending then some completed
  else if refreshingCommands.contains cmd then some (completed.requestRuntimeRefresh env)
  else some completed

/-! ## Telemetry -/

/-- The states of a relay from its telemetry, which may confirm the pending
command. -/
def handleRelayTelemetryConfirm (masterSlot slaveAddr : Int) (states : BitVec 32)
    (widget : Widget) : Widget :=
  { widget with
    relayStates := Function.update widget.relayStates (relayStateKey masterSlot slaveAddr)
      (some states)
    pendingRelay := widget.pendingRelay.filter fun relay =>
      !(relay.masterSlot = masterSlot && relay.slaveAddr = slaveAddr &&
        relay.expectedStates = states) }

/-- The slot of a status, and the type of the first slave with its address. -/
def statusSlave (masterSlot deviceId : Int) (widget : Widget) : Int × String :=
  let found := widget.slaveDevices.find? fun slave =>
    slave.slaveAddr = deviceId && (masterSlot < 0 || slave.masterSlot = masterSlot)
  let known := (found.map SlaveDeviceInfo.masterSlot).getD masterSlot
  let slot :=
    if known < 0 then
      match widget.connectedMasterSlots with
      | [only] => only
      | _ => known
    else known
  (if slot < 0 then 0 else slot, (found.map SlaveDeviceInfo.deviceType).getD "")

def typeOrFound (device : DeviceData) (found : String) : String :=
  if found ≠ "" then found
  else match device.type with
    | .sensorTh => "sensor_th"
    | .relay => "relay"
    | _ => "unknown"

def setOnline (masterSlot slaveAddr : Int) (deviceType : String) (online : Bool)
    (widget : Widget) : Widget :=
  { widget with
    slaveDevices := updateSlaveOnline masterSlot slaveAddr deviceType online widget.slaveDevices }

/-- A status older than thirty seconds counts as none. -/
def isStale (nowMs : Int) (device : DeviceData) : Bool :=
  0 < device.timestampMs && 30000 < nowMs - device.timestampMs

/-- One device of the loop in `handleDeviceStatus`. -/
def takeStatus (nowMs masterSlot : Int) (widget : Widget) (device : DeviceData) : Widget :=
  let (slot, found) := widget.statusSlave masterSlot device.deviceId
  if ¬widget.connectedMasterSlots.contains slot then widget
  else if !device.valid || isStale nowMs device then
    widget.setOnline slot device.deviceId (typeOrFound device found) false
  else match device.type with
    | .sensorTh => widget.setOnline slot device.deviceId "sensor_th" true
    | .relay => (widget.setOnline slot device.deviceId "relay" true).handleRelayTelemetryConfirm
        slot device.deviceId (device.relayStates.setWidth 32)
    | _ => widget

def handleDeviceStatus (nowMs : Int) (pack : DataPack) (widget : Widget) : Widget :=
  pack.devices.foldl (takeStatus nowMs pack.masterSlot) widget

/-! ## Frames -/

/-- `toVariant().toULongLong()` as 32 bits; a text with a sign is no number. -/
def seqOf (value : Option Json) : UInt32 :=
  match value with
  | some (.str text) => UInt32.ofInt (max 0 (Ui.Realtime.longLongOfText text))
  | value => UInt32.ofInt (Ui.Realtime.longLongOf value)

def portStatusOf (env : Surroundings) (root : Json) (message : String) (widget : Widget) : Widget :=
  widget.portStatusUpdated env (Ui.intOr (root.lookup "slot") 0)
    (Ui.textOr (root.lookup "port") "") (Ui.intOr (root.lookup "baud") 0)
    (Ui.boolOr (root.lookup "connected") false) message

/-- An answer to a port command is a status of the port too. -/
def portAnswered (env : Surroundings) (root : Json) (widget : Widget) : Widget :=
  let cmd := Ui.textOr (root.lookup "cmd") ""
  let status := Ui.textOr (root.lookup "status") ""
  if (cmd = "connect_port" ∨ cmd = "disconnect_port") ∧ (root.lookup "slot").isSome then
    widget.portStatusOf env root
      (Ui.textOr (root.lookup (if status = "success" then "message" else "reason")) "")
  else widget

def takeAck (env : Surroundings) (root : Json) (widget : Widget) : Option Widget :=
  (widget.portAnswered env root).commandAckReceived env (seqOf (root.lookup "seq"))
    (Ui.textOr (root.lookup "cmd") "") (Ui.textOr (root.lookup "status") "") root

def deviceRegistered (root : Json) (widget : Widget) : Widget :=
  { widget with
    slaveDevices := upsertRegisteredSlave (Ui.intOr (root.lookup "slot") 0)
      (Ui.intOr (root.lookup "deviceId") (Ui.intOr (root.lookup "slave_id") 0))
      (Ui.textOr (root.lookup "deviceName") "") (Ui.textOr (root.lookup "deviceType") "")
      widget.slaveDevices }

section Steps

variable (doubleOfText : String -> Rat) (fromJson : String -> Option Json)

/-- One frame of `IpcClient::onReadyRead`, with the slots of its signals.  What
only changes a page is left out. -/
def takeFrame (env : Surroundings) (frame : String) (widget : Widget) : Option Widget :=
  match fromJson frame with
  | some (.obj members) =>
      let root := Json.obj members
      let msgType := Ui.textOr (root.lookup "type") ""
      let cmd := Ui.textOr (root.lookup "cmd") ""
      if msgType = "ack" then widget.takeAck env root
      else if msgType = "ports" then some widget
      else if msgType = "runtime_state" then
        widget.handleRuntimeStateSnapshot (toArray (root.lookup "ports"))
      else if msgType = "config_sync_state" then some widget
      else if (msgType = "command" ∧ cmd = "port_status") ∨ msgType = "port_status" then
        some (widget.portStatusOf env root (Ui.textOr (root.lookup "message") ""))
      else if msgType = "device_register" then some (widget.deviceRegistered root)
      else if msgType = "command" ∧ cmd = "emergency" then some widget
      else match parseJson doubleOfText fromJson frame with
        | some pack => some (widget.handleDeviceStatus env.nowMs pack)
        | none => some widget
  | _ => some widget

end Steps

/-! ## Requests of the user -/

inductive Request where
  | scanPorts
  | connectMaster (masterSlot : Int) (deviceNode : String) (baudRate : Int)
  | disconnectMaster (masterSlot : Int)
  | addSlave (slot slaveId : Int) (deviceType : String) (pollIntervalMs : Int)
      (thresholdPayload : Members)
  | removeSlave (masterSlot slaveAddr : Int) (deviceType : String)
  | relayCommand (masterSlot slaveAddr : Int) (channel : String) (on : Bool)
  | offlineCacheConfig (cacheEnabled flushEnabled : Bool)
  | refreshOfflineCache
  | clearOfflineCache
  | flushOfflineCache

def requestAddSlave (env : Surroundings) (slot slaveId : Int) (deviceType : String)
    (pollIntervalMs : Int) (thresholdPayload : Members) (widget : Widget) : Widget :=
  let payload := insertMembers
    [("slot", .int slot), ("slave_id", .int slaveId), ("device_type", .str deviceType),
      ("poll_interval_ms", .int pollIntervalMs)] thresholdPayload
  match widget.sendCommand env "add_device" payload with
  | (some seq, sent) => { sent with pendingAddSlave := some ⟨seq, slot, slaveId, deviceType⟩ }
  | (none, unsent) => unsent

/-- The check that the port is connected comes before the question to the
user, during which anything may happen; it is left out. -/
def requestRemoveSlave (env : Surroundings) (masterSlot slaveAddr : Int) (deviceType : String)
    (widget : Widget) : Widget :=
  if masterSlot < 0 ∨ slaveAddr ≤ 0 then widget
  else match widget.sendCommand env "remove_device" [("slot", .int masterSlot),
      ("slave_id", .int slaveAddr), ("device_type", .str deviceType)] with
    | (some seq, sent) =>
        { sent with pendingRemoveSlave := some ⟨seq, masterSlot, slaveAddr, deviceType⟩ }
    | (none, unsent) => unsent

def relayBit (channel : String) : Option Nat :=
  if channel = "led" then some 0
  else if channel = "fan" then some 1
  else if channel = "buzzer" then some 2
  else none

/-- The states of a relay as far as they are known. -/
def knownStates (masterSlot slaveAddr : Int) (widget : Widget) : BitVec 32 :=
  (widget.relayStates (relayStateKey masterSlot slaveAddr)).getD 0

def switched (states : BitVec 32) (bit : Nat) (on : Bool) : BitVec 32 :=
  if on then states ||| (1#32 <<< bit) else states &&& ~~~(1#32 <<< bit)

def relayPayload (masterSlot slaveAddr : Int) (states : BitVec 32) : Members :=
  [("slot", .int masterSlot), ("slave_id", .int slaveAddr), ("device_id", .int slaveAddr),
    ("states", relayStatesToArray states)]

def requestRelay (env : Surroundings) (masterSlot slaveAddr : Int) (channel : String) (on : Bool)
    (widget : Widget) : Widget :=
  match relayBit channel with
  | none => widget
  | some bit =>
      let oldStates := widget.knownStates masterSlot slaveAddr
      let states := switched oldStates bit on
      match widget.sendCommand env "set_relay" (relayPayload masterSlot slaveAddr states) with
      | (some seq, sent) =>
          { sent with
            pendingRelay := some
              { seq, masterSlot, slaveAddr, oldStates, expectedStates := states
                ackReceived := false } }
      | (none, unsent) => unsent

def handleRequest (env : Surroundings) (widget : Widget) : Request -> Widget
  | .scanPorts => (widget.sendCommand env "scan_ports" []).2
  | .connectMaster masterSlot deviceNode baudRate =>
      (widget.sendCommand env "connect_port" [("slot", .int masterSlot),
        ("port", .str deviceNode), ("baud", .int baudRate)]).2
  | .disconnectMaster masterSlot =>
      (widget.sendCommand env "disconnect_port" [("slot", .int masterSlot)]).2
  | .addSlave slot slaveId deviceType pollIntervalMs thresholdPayload =>
      widget.requestAddSlave env slot slaveId deviceType pollIntervalMs thresholdPayload
  | .removeSlave masterSlot slaveAddr deviceType =>
      widget.requestRemoveSlave env masterSlot slaveAddr deviceType
  | .relayCommand masterSlot slaveAddr channel on =>
      widget.requestRelay env masterSlot slaveAddr channel on
  | .offlineCacheConfig cacheEnabled flushEnabled =>
      (widget.sendCommand env "set_offline_cache_config" [("cache_enabled", .bool cacheEnabled),
        ("flush_enabled", .bool flushEnabled)]).2
  | .refreshOfflineCache => (widget.sendCommand env "get_offline_cache_config" []).2
  | .clearOfflineCache => (widget.sendCommand env "clear_offline_cache" []).2
  | .flushOfflineCache => (widget.sendCommand env "flush_offline_cache" []).2

/-! ## The widget as a system -/

inductive Event where
  | connected
  | disconnected
  | received (frame : String)
  | requested (request : Request)
  | timedOut (seq : UInt32)
  | confirmTimedOut (seq : UInt32)

section System

variable (doubleOfText : String -> Rat) (fromJson : String -> Option Json)

/-- `none` is an access outside of the list of slaves. -/
def step (env : Surroundings) (widget : Widget) : Event -> Option Widget
  | .connected => some (widget.handleIpcConnected env)
  | .disconnected => some widget.handleIpcDisconnected
  | .received frame => widget.takeFrame doubleOfText fromJson env frame
  | .requested request => some (widget.handleRequest env request)
  | .timedOut seq => some (widget.commandTimeout seq)
  | .confirmTimedOut seq => some (widget.confirmTimeout seq)

end System

end Widget

/-- A run that has left the list stays without a state. -/
def widgetSystem (doubleOfText : String -> Rat) (fromJson : String -> Option Json) :
    TransitionSystem (Option Widget) (Surroundings × Widget.Event) where
  initial := some .constructed
  step := fun state event => state.bind fun widget =>
    widget.step doubleOfText fromJson event.1 event.2

end LocalUi
end Imx6Gateway
