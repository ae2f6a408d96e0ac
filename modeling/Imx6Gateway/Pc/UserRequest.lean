import Imx6Gateway.Library.Transition
import Imx6Gateway.Pc.MessageHandler

namespace Imx6Gateway
namespace Pc

open Library

/-!
# Requests of the user in Pc_data

The requests of `IpcMessageHandler::handle` that change what is registered:
a configuration sync, the deletion of a device or of a port, and the clearing
of all data.  Commands are forwarded in `CommandForward`; here they only leave
an entry that waits for the answer.  With these requests, the messages of the
boards and the turns of its workers, Pc_data is a transition system.
-/

def parseSelection (value : Json) : SyncGatewaySelection where
  gatewayId := getJsonString value "gatewayId"
  devices := ((((memberArray value "devices").getD []).filter Json.isObj).map fun device =>
    (⟨getJsonString device "portId", getJsonInt device "deviceId" 0⟩ : SyncSelectedDevice)).filter
      fun device => device.portId ≠ "" && 0 < device.deviceId

def parseSyncConfigRequest (root : Json) : List SyncGatewaySelection :=
  if getJsonString root "type" ≠ "sync_config_request" then []
  else ((((memberArray root "targets").getD []).filter Json.isObj).map parseSelection).filter
    fun target => target.gatewayId ≠ "" && !target.devices.isEmpty

/-- The device of a `delete_device_data` request. -/
def parseDeleteDeviceRequest (root : Json) : Option DeviceKey :=
  if getJsonString root "type" ≠ "delete_device_data" then none
  else deviceKey? (orElse (getJsonString root "gatewayId") (getJsonString root "gateway_id"))
    (orElse (getJsonString root "portId") (getJsonString root "port_id"))
    (getJsonInt root "deviceId" (getJsonInt root "device_id" 0))

/-- The gateway and the port of a `delete_master_data` request. -/
def parseDeleteMasterRequest (root : Json) : Option (String × String) :=
  let gatewayId := orElse (getJsonString root "gatewayId") (getJsonString root "gateway_id")
  let portId := orElse (getJsonString root "portId") (getJsonString root "port_id")
  if getJsonString root "type" ≠ "delete_master_data" ∨ gatewayId = "" ∨ portId = "" then none
  else some (gatewayId, portId)

def parseClearAllDataRequest (root : Json) : Bool :=
  getJsonString root "type" = "clear_all_data"

namespace PcData

section Requests

variable (pc : JsonCodec) (nowMs : Int)

/-- Asks one gateway for its configuration; what cannot be sent does not wait. -/
def requestSync (state : PcData × List Publication) (pending : SyncGatewayPending) :
    PcData × List Publication :=
  match publishGetConfig pc pending with
  | some publication => (state.1, state.2 ++ [publication])
  | none => ({ state.1 with service := state.1.service.completeSyncConfig pending.seq }, state.2)

def handleSync (state : PcData) (targets : List SyncGatewaySelection) :
    PcData × List Publication :=
  let begun := state.service.beginSyncConfigRequest nowMs targets
  begun.2.foldl (requestSync pc) ({ state with service := begun.1 }, [])

/-- The memory is cleared of the port even if the database is not. -/
def deleteMaster (state : PcData) (gatewayId portId : String) : PcData :=
  let deleted := if state.database.isOpen then
      (state.database.deleteMasterData nowMs gatewayId portId).1
    else state.database
  { state with
    database := deleted
    service := (state.service.removeMasterData nowMs gatewayId portId).1 }

def clearAll (state : PcData) : PcData :=
  let cleared := state.database.clearRuntimeData
  { state with
    database := cleared.1
    service := if cleared.2 then state.service.clear else state.service }

def handleRequest (state : PcData) (text : String) : PcData × List Publication :=
  match parseObject pc text with
  | none => (state, [])
  | some root =>
      if parseSyncConfigRequest root ≠ [] then
        state.handleSync pc nowMs (parseSyncConfigRequest root)
      else
        match parseDeleteDeviceRequest root with
        | some key => (state.deleteDevice nowMs key.gatewayId key.portId key.deviceId, [])
        | none =>
            match parseDeleteMasterRequest root with
            | some (gatewayId, portId) => (state.deleteMaster nowMs gatewayId portId, [])
            | none => (if parseClearAllDataRequest root then state.clearAll else state, [])

end Requests
end PcData

/-- What can happen to Pc_data, with the time at which it happens. -/
inductive PcEvent where
  | message (nowMs : Int) (topic payload : String)
  | request (nowMs : Int) (text : String)
  | command (target : PendingCommandTarget)
  | telemetryTurn (nowMs : Int)
  | writerTurn (nowMs : Int)
  | syncTimeouts (nowMs : Int)
deriving DecidableEq, Repr

def syncTimeoutMs : Int := 5000

/-- One step, with what it publishes. -/
def PcData.step (pc : JsonCodec) (stod : String -> Option Rat) (state : PcData) :
    PcEvent -> PcData × List Publication
  | .message nowMs topic payload => state.handle pc nowMs stod topic payload
  | .request nowMs text => state.handleRequest pc nowMs text
  | .command target =>
      ({ state with service := state.service.rememberPendingCommand target }, [])
  | .telemetryTurn nowMs => state.telemetryWorker pc nowMs stod
  | .writerTurn nowMs => (state.dbWriter nowMs, [])
  | .syncTimeouts nowMs =>
      ({ state with service := state.service.collectSyncConfigTimeouts nowMs syncTimeoutMs }, [])

/-- Pc_data from its start with a database. -/
def pcSystem (pc : JsonCodec) (stod : String -> Option Rat) (database : Database)
    (startMs : Int) : TransitionSystem PcData PcEvent where
  initial := seeded database startMs
  step state event := (state.step pc stod event).1

end Pc
end Imx6Gateway
